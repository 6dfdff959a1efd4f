import AiScdc.Session
import AiScdc.Guards

namespace AiScdc.ModelSettings

inductive AgentRole where
  | planner | frontend | backend | reviewer | debugger | security | product | documentation
  deriving DecidableEq, Repr

inductive ModelRouteStatus where
  | active | disabled
  deriving DecidableEq, Repr

structure ModelProvider where
  workspaceId : Id
  deriving DecidableEq, Repr

structure ModelCredential where
  workspaceId : Id
  providerId : Id
  deriving DecidableEq, Repr

structure ModelRoute where
  workspaceId : Id
  agentRole : AgentRole
  providerId : Id
  credentialId : Option Id
  modelName : String
  fallbackModels : List String
  status : ModelRouteStatus
  createdAt : Time
  updatedAt : Time
  deriving DecidableEq, Repr

structure ModelRouteCreate where
  agentRole : AgentRole
  providerId : Id
  credentialId : Option Id
  modelName : String
  fallbackModels : List String

-- An outer none is a field that was not sent; the credential may also be sent as null.
structure ModelRouteUpdate where
  providerId : Option Id
  credentialId : Option (Option Id)
  modelName : Option String
  fallbackModels : Option (List String)
  status : Option ModelRouteStatus

abbrev Routes := Id → Option ModelRoute

-- The rows the partial unique index covers together: active ones of a workspace and a role.
structure ActiveFor (workspaceId : Id) (agentRole : AgentRole) (route : ModelRoute) : Prop where
  workspace : route.workspaceId = workspaceId
  role : route.agentRole = agentRole
  active : route.status = .active

instance (workspaceId : Id) (agentRole : AgentRole) (route : ModelRoute) :
    Decidable (ActiveFor workspaceId agentRole route) :=
  decidable_of_iff (route.workspaceId = workspaceId ∧ route.agentRole = agentRole ∧
    route.status = .active) ⟨fun h => ⟨h.1,h.2.1,h.2.2⟩,fun h => ⟨h.1,h.2,h.3⟩⟩

def UniqueActive (routes : Routes) : Prop := ∀ workspaceId agentRole i j a b, routes i = some a →
  routes j = some b → ActiveFor workspaceId agentRole a → ActiveFor workspaceId agentRole b → i = j

-- The committed tables: the index holds and every id in use has been given out.
structure Database where
  providers : Id → Option ModelProvider
  credentials : Id → Option ModelCredential
  routes : Routes
  next : Id
  unique : UniqueActive routes
  used : ∀ id, next ≤ id → routes id = none

-- A session sees the rows it has flushed and holds one object that it has not.
structure RouteSession where
  routes : Routes
  next : Id
  dirty : Option (Id × ModelRoute)

-- Another active row stands where the index would put this one.
def indexRefuses (next : Id) (routes : Routes) (id : Id) (route : ModelRoute) : Bool :=
  (List.range next).any fun other =>
    other ≠ id && (routes other).any fun r => decide (r.status = .active ∧ route.status = .active ∧
      r.workspaceId = route.workspaceId ∧ r.agentRole = route.agentRole)

namespace RouteSession

-- A change that leaves the row as it was sends nothing.
def setDirty (s : RouteSession) (id : Id) (route : ModelRoute) : RouteSession :=
  if s.routes id = some route then { s with dirty := none } else { s with dirty := some (id,route) }

def flush (s : RouteSession) : Except Exn RouteSession :=
  match s.dirty with
  | none => .ok s
  | some (id,route) =>
    if indexRefuses s.next s.routes id route then .error .integrityError
    else .ok { s with routes := Function.update s.routes id (some route), dirty := none }

end RouteSession

def activeRouteConflict : Exn := .http 409 "Active model route already exists for role"

def flushOrConflict (s : RouteSession) : Except Exn RouteSession :=
  match s.flush with
  | .error .integrityError => .error activeRouteConflict
  | other => other

def getModelProvider (db : Database) (workspaceId providerId : Id) : Except Exn ModelProvider :=
  match db.providers providerId with
  | none => .error (.http 404 "Model provider not found")
  | some provider =>
    if provider.workspaceId = workspaceId then .ok provider
    else .error (.http 404 "Model provider not found")

def getModelCredential (db : Database) (workspaceId credentialId : Id) : Except Exn ModelCredential :=
  match db.credentials credentialId with
  | none => .error (.http 404 "Model credential not found")
  | some credential =>
    if credential.workspaceId = workspaceId then .ok credential
    else .error (.http 404 "Model credential not found")

def getModelRoute (db : Database) (workspaceId routeId : Id) : Except Exn ModelRoute :=
  match db.routes routeId with
  | none => .error (.http 404 "Model route not found")
  | some route =>
    if route.workspaceId = workspaceId then .ok route
    else .error (.http 404 "Model route not found")

def validateRouteReferences (db : Database) (workspaceId providerId : Id) (credentialId : Option Id) :
    Except Exn ModelProvider := do
  let provider ← getModelProvider db workspaceId providerId
  match credentialId with
  | none => .ok provider
  | some credentialId =>
    let credential ← getModelCredential db workspaceId credentialId
    if credential.providerId ≠ providerId then
      .error (.http 400 "Credential does not belong to provider")
    else if credential.workspaceId ≠ provider.workspaceId then
      .error (.http 400 "Credential does not belong to provider workspace")
    else .ok provider

-- The SELECT is preceded by the flush of what the session holds.
def activeRouteForRole (workspaceId : Id) (agentRole : AgentRole) (exclude : Option Id)
    (s : RouteSession) : Except Exn (Bool × RouteSession) := do
  let s ← s.flush
  .ok ((List.range s.next).any (fun id => some id ≠ exclude && (s.routes id).any fun route =>
    decide (ActiveFor workspaceId agentRole route)),s)

def Database.session (db : Database) : RouteSession := ⟨db.routes,db.next,none⟩

def newModelRoute (provider : ModelProvider) (data : ModelRouteCreate) (now : Time) : ModelRoute where
  workspaceId := provider.workspaceId
  agentRole := data.agentRole
  providerId := data.providerId
  credentialId := data.credentialId
  modelName := data.modelName
  fallbackModels := data.fallbackModels
  status := .active
  createdAt := now
  updatedAt := now

def createModelRoute (db : Database) (workspaceId : Id) (data : ModelRouteCreate) (now : Time) :
    Except Exn RouteSession := do
  let provider ← validateRouteReferences db workspaceId data.providerId data.credentialId
  let (found,s) ← activeRouteForRole workspaceId data.agentRole none db.session
  if found then .error activeRouteConflict
  else
    let s := { s with next := s.next + 1 }
    flushOrConflict (s.setDirty db.next (newModelRoute provider data now))

namespace ModelRoute

def withData (route : ModelRoute) (data : ModelRouteUpdate) : ModelRoute :=
  { route with
    providerId := data.providerId.getD route.providerId
    credentialId := data.credentialId.getD route.credentialId
    modelName := data.modelName.getD route.modelName
    fallbackModels := data.fallbackModels.getD route.fallbackModels
    status := data.status.getD route.status }

end ModelRoute

def updateModelRoute (db : Database) (workspaceId : Id) (permitted : Bool) (routeId : Id)
    (data : ModelRouteUpdate) (now : Time) : Except Exn RouteSession := do
  let route ← getModelRoute db workspaceId routeId
  if !permitted then .error (.http 403 "Insufficient workspace role")
  else
    let changed := route.withData data
    let _ ← validateRouteReferences db workspaceId changed.providerId changed.credentialId
    let s := db.session.setDirty routeId changed
    if changed.status = .active then
      let (found,s) ← activeRouteForRole workspaceId changed.agentRole (some routeId) s
      if found then .error activeRouteConflict
      else flushOrConflict (s.setDirty routeId { changed with updatedAt := now })
    else flushOrConflict (s.setDirty routeId { changed with updatedAt := now })

inductive RouteCall where
  | create (data : ModelRouteCreate) (now : Time)
  | update (permitted : Bool) (routeId : Id) (data : ModelRouteUpdate) (now : Time)

def RouteCall.run (db : Database) (workspaceId : Id) : RouteCall → Except Exn RouteSession
  | .create data now => createModelRoute db workspaceId data now
  | .update permitted routeId data now => updateModelRoute db workspaceId permitted routeId data now

section sessions

variable {s s' : RouteSession} {workspaceId id : Id} {agentRole : AgentRole} {route : ModelRoute}

structure RouteSession.Sound (s : RouteSession) : Prop where
  unique : UniqueActive s.routes
  used : ∀ id, s.next ≤ id → s.routes id = none
  dirty : ∀ id route, s.dirty = some (id,route) → id < s.next

theorem used_lt (hused : ∀ id, s.next ≤ id → s.routes id = none) (h : s.routes id = some route) :
    id < s.next := by
  by_contra hle
  rw [hused id (Nat.le_of_not_lt hle)] at h
  cases h

theorem indexRefuses_iff (hused : ∀ id, s.next ≤ id → s.routes id = none) :
    indexRefuses s.next s.routes id route = true ↔ route.status = .active ∧
      ∃ other row, other ≠ id ∧ s.routes other = some row ∧
        ActiveFor route.workspaceId route.agentRole row := by
  simp only [indexRefuses,List.any_eq_true,List.mem_range,Bool.and_eq_true,decide_eq_true_eq,
    Option.any_eq_true]
  constructor
  · rintro ⟨other,_,hne,row,hrow,hactive,hroute,hworkspace,hrole⟩
    exact ⟨hroute,other,row,hne,hrow,hworkspace,hrole,hactive⟩
  · rintro ⟨hroute,other,row,hne,hrow,hactive⟩
    exact ⟨other,used_lt hused hrow,hne,row,hrow,hactive.active,hroute,hactive.workspace,hactive.role⟩

theorem UniqueActive.update {routes : Routes} (h : UniqueActive routes)
    (hroute : route.status = .active → ∀ other row, other ≠ id → routes other = some row →
      ¬ ActiveFor route.workspaceId route.agentRole row) :
    UniqueActive (Function.update routes id (some route)) := by
  intro workspaceId agentRole i j a b hi hj ha hb
  have hcross {k : Id} {row : ModelRoute} (hk : k ≠ id) (hrow : routes k = some row)
      (hown : ActiveFor workspaceId agentRole route) (hother : ActiveFor workspaceId agentRole row) :
      False := by
    apply hroute hown.active k row hk hrow
    rw [hown.workspace,hown.role]
    exact hother
  by_cases hid : i = id
  · subst hid
    rw [Function.update_self] at hi
    obtain rfl := Option.some.inj hi
    by_contra hne
    rw [Function.update_of_ne (Ne.symm hne)] at hj
    exact hcross (Ne.symm hne) hj ha hb
  · rw [Function.update_of_ne hid] at hi
    by_cases hjd : j = id
    · subst hjd
      rw [Function.update_self] at hj
      obtain rfl := Option.some.inj hj
      exact (hcross hid hi hb ha).elim
    · rw [Function.update_of_ne hjd] at hj
      exact h workspaceId agentRole i j a b hi hj ha hb

theorem RouteSession.Sound.flush (h : s.Sound) (hflush : s.flush = .ok s') : s'.Sound := by
  rw [RouteSession.flush] at hflush
  cases hdirty : s.dirty with
  | none =>
    rw [hdirty] at hflush
    cases hflush
    exact h
  | some change =>
    obtain ⟨id,route⟩ := change
    simp only [hdirty] at hflush
    split at hflush
    · cases hflush
    · rename_i hrefuses
      cases hflush
      constructor
      · apply h.unique.update
        intro hactive other row hne hrow hrowActive
        exact hrefuses ((indexRefuses_iff h.used).mpr ⟨hactive,other,row,hne,hrow,hrowActive⟩)
      · intro k hk
        have hlt := h.dirty id route hdirty
        change Function.update s.routes id (some route) k = none
        rw [Function.update_of_ne fun heq : k = id => absurd (heq ▸ hk) (Nat.not_le.mpr hlt)]
        exact h.used k hk
      · intro k r hk
        cases hk

theorem RouteSession.Sound.setDirty (h : s.Sound) (hid : id < s.next) : (s.setDirty id route).Sound := by
  rw [RouteSession.setDirty]
  split
  · exact ⟨h.unique,h.used,fun _ _ hk => by cases hk⟩
  · refine ⟨h.unique,h.used,fun k r hk => ?_⟩
    cases hk
    exact hid

theorem RouteSession.flush_next (hflush : s.flush = .ok s') : s'.next = s.next := by
  rw [RouteSession.flush] at hflush
  split at hflush
  · cases hflush
    rfl
  · split at hflush <;> cases hflush
    rfl

theorem flushOrConflict_ok (h : flushOrConflict s = .ok s') : s.flush = .ok s' := by
  rw [flushOrConflict] at h
  split at h
  · cases h
  · exact h

theorem Database.session_sound (db : Database) : db.session.Sound :=
  ⟨db.unique,db.used,fun _ _ h => by cases h⟩

theorem activeRouteForRole_ok {exclude : Option Id} {found : Bool}
    (h : activeRouteForRole workspaceId agentRole exclude s = .ok (found,s')) : s.flush = .ok s' := by
  rw [activeRouteForRole] at h
  cases hflush : s.flush with
  | error e =>
    rw [hflush] at h
    cases h
  | ok s₁ =>
    rw [hflush] at h
    cases h
    rfl

end sessions

section requests

variable {db : Database} {workspaceId : Id} {s : RouteSession}

theorem createModelRoute_sound {data : ModelRouteCreate} {now : Time}
    (h : createModelRoute db workspaceId data now = .ok s) : s.Sound := by
  obtain ⟨provider,_,h⟩ := bind_eq_ok.mp h
  obtain ⟨⟨found,s₁⟩,hselect,h⟩ := bind_eq_ok.mp h
  simp only at h
  split at h
  · cases h
  · have hflush := activeRouteForRole_ok hselect
    have hsound₁ := db.session_sound.flush hflush
    have hnext : s₁.next = db.next := RouteSession.flush_next hflush
    apply RouteSession.Sound.flush _ (flushOrConflict_ok h)
    apply RouteSession.Sound.setDirty
    · exact ⟨hsound₁.unique,fun id hid => hsound₁.used id (Nat.le_of_succ_le hid),
        fun id route hd => Nat.lt_succ_of_lt (hsound₁.dirty id route hd)⟩
    · rw [← hnext]
      exact Nat.lt_succ_self _

theorem getModelRoute_ok {routeId : Id} {route : ModelRoute}
    (h : getModelRoute db workspaceId routeId = .ok route) :
    db.routes routeId = some route ∧ route.workspaceId = workspaceId := by
  rw [getModelRoute] at h
  split at h
  · cases h
  · rename_i row hrow
    split at h
    · rename_i hworkspace
      cases h
      exact ⟨hrow,hworkspace⟩
    · cases h

theorem updateModelRoute_sound {permitted : Bool} {routeId : Id} {data : ModelRouteUpdate} {now : Time}
    (h : updateModelRoute db workspaceId permitted routeId data now = .ok s) : s.Sound := by
  obtain ⟨route,hroute,h⟩ := bind_eq_ok.mp h
  have hid : routeId < db.next := used_lt (s := db.session) db.used (getModelRoute_ok hroute).1
  simp only at h
  split at h
  · cases h
  · obtain ⟨_,_,h⟩ := bind_eq_ok.mp h
    have hdirty : (db.session.setDirty routeId (route.withData data)).Sound :=
      db.session_sound.setDirty hid
    have hnext : (db.session.setDirty routeId (route.withData data)).next = db.next := by
      rw [RouteSession.setDirty]
      split <;> rfl
    split at h
    · obtain ⟨⟨found,s₁⟩,hselect,h⟩ := bind_eq_ok.mp h
      simp only at h
      have hflush := activeRouteForRole_ok hselect
      split at h
      · cases h
      · apply RouteSession.Sound.flush _ (flushOrConflict_ok h)
        apply (hdirty.flush hflush).setDirty
        rw [RouteSession.flush_next hflush,hnext]
        exact hid
    · apply RouteSession.Sound.flush _ (flushOrConflict_ok h)
      apply hdirty.setDirty
      rw [hnext]
      exact hid

theorem RouteCall.run_sound {c : RouteCall} (h : c.run db workspaceId = .ok s) : s.Sound := by
  cases c with
  | create data now => exact createModelRoute_sound h
  | update permitted routeId data now => exact updateModelRoute_sound h

end requests

-- A request commits what its call has flushed, or nothing.
def RouteCall.request (db : Database) (workspaceId : Id) (c : RouteCall) : Except Exn Unit × Database :=
  match h : c.run db workspaceId with
  | .error e => (.error e,db)
  | .ok s => (.ok (),⟨db.providers,db.credentials,s.routes,s.next,(RouteCall.run_sound h).unique,
      (RouteCall.run_sound h).used⟩)

def afterCalls (db : Database) (workspaceId : Id) (calls : List RouteCall) : Database :=
  calls.foldl (fun db c => (c.request db workspaceId).2) db

def Referable (db : Database) (workspaceId providerId : Id) (credentialId : Option Id) : Prop :=
  ∃ provider, validateRouteReferences db workspaceId providerId credentialId = .ok provider

-- The call passes its other checks and would stand beside another active route of the role.
def RouteCall.Conflicts (db : Database) (workspaceId : Id) : RouteCall → Prop
  | .create data _ => Referable db workspaceId data.providerId data.credentialId ∧
      ∃ id row, db.routes id = some row ∧ ActiveFor workspaceId data.agentRole row
  | .update permitted routeId data _ => permitted = true ∧
      ∃ route, getModelRoute db workspaceId routeId = .ok route ∧ route.status = .disabled ∧
        data.status = some .active ∧
        Referable db workspaceId (route.withData data).providerId (route.withData data).credentialId ∧
        ∃ id row, id ≠ routeId ∧ db.routes id = some row ∧ ActiveFor workspaceId route.agentRole row

def RouteCall.updates : RouteCall → Bool
  | .create _ _ => false
  | .update _ _ _ _ => true

structure RouteConflictsRefused (db : Database) (workspaceId : Id) (calls : List RouteCall) : Prop where
  unique : ∀ before rest, calls = before ++ rest →
    UniqueActive (afterCalls db workspaceId before).routes
  refused : ∀ before call rest, calls = before ++ call :: rest →
    call.Conflicts (afterCalls db workspaceId before) workspaceId →
    call.request (afterCalls db workspaceId before) workspaceId =
      (.error activeRouteConflict,afterCalls db workspaceId before)

section conflicts

variable {db : Database} {workspaceId : Id}

theorem create_refused {data : ModelRouteCreate} {now : Time}
    (h : (RouteCall.create data now).Conflicts db workspaceId) :
    (RouteCall.create data now).run db workspaceId = .error activeRouteConflict := by
  obtain ⟨⟨provider,hvalid⟩,id,row,hrow,hactive⟩ := h
  have hlt : id < db.next := used_lt (s := db.session) db.used hrow
  have hfound : (List.range db.next).any (fun id => some id ≠ none && (db.routes id).any fun route =>
      decide (ActiveFor workspaceId data.agentRole route)) = true := by
    rw [List.any_eq_true]
    exact ⟨id,List.mem_range.mpr hlt,by simp [hrow,hactive]⟩
  have hselect : activeRouteForRole workspaceId data.agentRole none db.session =
      .ok (true,db.session) := by
    simp only [activeRouteForRole]
    exact congrArg (fun found => Except.ok (found,db.session)) hfound
  simp only [RouteCall.run,createModelRoute,hvalid,hselect]
  rfl

theorem update_unhandled {permitted : Bool} {routeId : Id} {data : ModelRouteUpdate} {now : Time}
    (h : (RouteCall.update permitted routeId data now).Conflicts db workspaceId) :
    (RouteCall.update permitted routeId data now).run db workspaceId = .error .integrityError := by
  obtain ⟨rfl,route,hroute,hdisabled,hstatus,⟨provider,hvalid⟩,id,row,hne,hrow,hactive⟩ := h
  obtain ⟨hstored,hworkspace⟩ := getModelRoute_ok hroute
  have hchanged : (route.withData data).status = .active := by simp [ModelRoute.withData,hstatus]
  have hdirty : db.session.setDirty routeId (route.withData data) =
      { db.session with dirty := some (routeId,route.withData data) } := by
    rw [RouteSession.setDirty,if_neg]
    intro heq
    obtain heq := Option.some.inj (hstored.symm.trans heq)
    rw [← heq,hdisabled] at hchanged
    cases hchanged
  have hrefuses : indexRefuses db.next db.routes routeId (route.withData data) = true := by
    apply (indexRefuses_iff (s := db.session) db.used).mpr
    refine ⟨hchanged,id,row,hne,hrow,?_⟩
    rw [show (route.withData data).workspaceId = workspaceId from hworkspace]
    exact hactive
  have hflush : (db.session.setDirty routeId (route.withData data)).flush = .error .integrityError := by
    rw [hdirty]
    simp only [RouteSession.flush,Database.session,hrefuses,if_true]
  simp only [RouteCall.run,updateModelRoute,hroute,hvalid,activeRouteForRole,hflush,Bind.bind,Except.bind,
    hchanged,Bool.not_true,Bool.false_eq_true,if_false,if_true]

theorem RouteCall.request_error {c : RouteCall} {e : Exn} (h : c.run db workspaceId = .error e) :
    c.request db workspaceId = (.error e,db) := by
  rw [RouteCall.request]
  split
  · rename_i e' he'
    rw [Except.error.inj (h.symm.trans he')]
  · rename_i s hs
    cases h.symm.trans hs

end conflicts

theorem route_conflicts_refused_iff (db : Database) (workspaceId : Id) (calls : List RouteCall) :
    RouteConflictsRefused db workspaceId calls ↔
      ∀ before call rest, calls = before ++ call :: rest → call.updates = true →
        ¬ call.Conflicts (afterCalls db workspaceId before) workspaceId := by
  constructor
  · intro h before call rest hcalls hupdates hconflicts
    have hrefused := h.refused before call rest hcalls hconflicts
    cases call with
    | create data now => cases hupdates
    | update permitted routeId data now =>
      rw [RouteCall.request_error (update_unhandled hconflicts)] at hrefused
      cases (Prod.ext_iff.mp hrefused).1
  · intro h
    constructor
    · intro before rest _
      exact (afterCalls db workspaceId before).unique
    · intro before call rest hcalls hconflicts
      cases call with
      | create data now => exact RouteCall.request_error (create_refused hconflicts)
      | update permitted routeId data now => exact (h before _ rest hcalls rfl hconflicts).elim

def plannerRoute (status : ModelRouteStatus) : ModelRoute :=
  ⟨1,.planner,0,none,"model",[],status,0,0⟩

def sampleRoutes : Routes
  | 0 => some (plannerRoute .active)
  | 1 => some (plannerRoute .disabled)
  | _ => none

theorem sampleRoutes_active {id : Id} {row : ModelRoute} (h : sampleRoutes id = some row)
    (hactive : row.status = .active) : id = 0 := by
  match id, h with
  | 0, _ => rfl
  | 1, h =>
    cases h
    cases hactive

def sampleDatabase : Database where
  providers id := if id = 0 then some ⟨1⟩ else none
  credentials _ := none
  routes := sampleRoutes
  next := 2
  unique _ _ _ _ _ _ hi hj ha hb :=
    (sampleRoutes_active hi ha.active).trans (sampleRoutes_active hj hb.active).symm
  used id h := by
    match id, h with
    | _ + 2, _ => rfl

def reactivation : RouteCall := .update true 1 ⟨none,none,none,none,some .active⟩ 5

theorem reactivation_conflicts : reactivation.Conflicts sampleDatabase 1 :=
  ⟨rfl,plannerRoute .disabled,rfl,rfl,rfl,⟨⟨1⟩,rfl⟩,0,plannerRoute .active,by decide,rfl,rfl,rfl,rfl⟩

theorem reactivation_unhandled : ¬ RouteConflictsRefused sampleDatabase 1 [reactivation] := by
  intro h
  have hrefused := h.refused [] reactivation [] rfl reactivation_conflicts
  have hresult : reactivation.run sampleDatabase 1 = .error .integrityError :=
    update_unhandled reactivation_conflicts
  have hrequest := RouteCall.request_error hresult
  cases (Prod.ext_iff.mp (hrequest.symm.trans hrefused)).1

end AiScdc.ModelSettings
