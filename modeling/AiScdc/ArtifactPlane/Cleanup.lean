import AiScdc.ArtifactPlane.Content
import AiScdc.Guards
import AiScdc.Numbers.Instants

namespace AiScdc.ArtifactPlane
open Instants (Datetime)

-- `before` is the time given with the request, or the clock.
structure CloudRunArtifactCleanupRequest where
  context : Option AuthContext
  before : Datetime
  limit : ℕ
  positive : 1 ≤ limit

inductive CleanupAction where
  | deleted | lifecycleOnly
  deriving DecidableEq, Repr

structure CloudRunArtifactCleanupItemRead where
  artifactId : String
  cloudRunId : String
  provider : String
  action : CleanupAction
  redactedUri : String
  reason : String
  deriving DecidableEq, Repr

structure CloudRunArtifactCleanupResultRead where
  before : Time
  deletedCount : ℕ
  lifecycleOnlyCount : ℕ
  items : List CloudRunArtifactCleanupItemRead
  deriving DecidableEq, Repr

abbrev StoredObjects := Table CloudRunStoredObject CloudRunStoredObject.id

-- The rows that are ordered by it have an expiry.
def expiry (storedObject : CloudRunStoredObject) : Time := storedObject.expiresAt.getD 0

def expiresBefore (a b : CloudRunStoredObject) : Prop :=
  expiry a < expiry b ∨ (expiry a = expiry b ∧ a.id ≤ b.id)

def inScope (request : CloudRunArtifactCleanupRequest) (storedObject : CloudRunStoredObject) : Bool :=
  storedObject.expiresAt.any (· ≤ request.before.instant) &&
    request.context.all fun context => storedObject.workspaceId = context.workspaceId

-- A report on a row: the row, and the item of the answer.
abbrev Report := CloudRunStoredObject × CloudRunArtifactCleanupItemRead

section cleanup

variable [UrlText] [Digest]

def cleanupItem (storedObject : CloudRunStoredObject) (kind provider redactedUri : String)
    (action : CleanupAction) (reason : String) : CloudRunArtifactCleanupItemRead where
  artifactId := stableArtifactId kind redactedUri storedObject.sha256
  cloudRunId := storedObject.cloudRunId
  provider := provider
  action := action
  redactedUri := redactedUri
  reason := reason

-- The first pass, with the number of rows it may still delete.
def deletePass : ℕ → List CloudRunStoredObject → Read (List Report)
  | 0,_ => .ok []
  | _,[] => .ok []
  | limit + 1,storedObject :: rest =>
    match artifactKindOrNone storedObject.kind with
    | none => deletePass (limit + 1) rest
    | some kind => do
      let provider ← parsed (providerNameFromUri storedObject.uri)
      let objectId ← parsed (localInlineObjectId storedObject.uri)
      if provider ≠ "local_inline" ∨ objectId ≠ some storedObject.id then deletePass (limit + 1) rest
      else do
        let redactedUri ← parsed (redactUri storedObject.uri)
        let reports ← deletePass limit rest
        return (storedObject,cleanupItem storedObject kind provider redactedUri .deleted
          "local_inline_expired") :: reports

def lifecyclePass (deletedIds : List String) : ℕ → List CloudRunStoredObject → Read (List Report)
  | 0,_ => .ok []
  | _,[] => .ok []
  | limit + 1,storedObject :: rest =>
    if storedObject.id ∈ deletedIds then lifecyclePass deletedIds (limit + 1) rest
    else
      match artifactKindOrNone storedObject.kind with
      | none => lifecyclePass deletedIds (limit + 1) rest
      | some kind => do
        let provider ← parsed (providerNameFromUri storedObject.uri)
        let objectId ← parsed (localInlineObjectId storedObject.uri)
        if provider = "local_inline" ∧ objectId = some storedObject.id then
          lifecyclePass deletedIds (limit + 1) rest
        else do
          let redactedUri ← parsed (redactUri storedObject.uri)
          let reports ← lifecyclePass deletedIds limit rest
          return (storedObject,cleanupItem storedObject kind provider redactedUri .lifecycleOnly
            (if provider = "local_inline" then "local_inline_reference_mismatch"
              else "external_provider_cleanup_not_supported_by_api")) :: reports

instance : DecidableRel expiresBefore := fun _ _ => inferInstanceAs (Decidable (_ ∨ _))

def expiredStoredObjects (objects : StoredObjects) (request : CloudRunArtifactCleanupRequest) :
    List CloudRunStoredObject :=
  (objects.rows.filter (inScope request)).insertionSort expiresBefore

def reportedIds (reports : List Report) : List String := reports.map fun report => report.1.id

def removeObjects (objects : StoredObjects) (ids : List String) : StoredObjects where
  rows := objects.rows.filter fun storedObject => storedObject.id ∉ ids
  distinct := (List.filter_sublist.map CloudRunStoredObject.id).nodup objects.distinct

structure Cleanup where
  objects : StoredObjects
  deleted : List Report
  lifecycleOnly : List Report

def Cleanup.result (request : CloudRunArtifactCleanupRequest) (c : Cleanup) :
    CloudRunArtifactCleanupResultRead where
  before := request.before.instant
  deletedCount := c.deleted.length
  lifecycleOnlyCount := c.lifecycleOnly.length
  items := (c.deleted ++ c.lifecycleOnly).map Prod.snd

def normalized (before : Datetime) : Read Unit :=
  match before.asUtc with
  | some _ => .ok ()
  | none => .error (.unhandled "OverflowError")

def cleanupExpiredCloudRunArtifacts (objects : StoredObjects) (request : CloudRunArtifactCleanupRequest) :
    Read Cleanup := do
  requireAuditedPermissionIfAuthenticated request.context
  normalized request.before
  let expired := expiredStoredObjects objects request
  let deleted ← deletePass request.limit expired
  let lifecycleOnly ← lifecyclePass (reportedIds deleted) request.limit expired
  return ⟨removeObjects objects (reportedIds deleted),deleted,lifecycleOnly⟩

-- The rows after a number of calls with the same arguments.
def afterCalls (objects : StoredObjects) (request : CloudRunArtifactCleanupRequest) : ℕ → Read StoredObjects
  | 0 => .ok objects
  | n + 1 => do
    let objects ← afterCalls objects request n
    let cleanup ← cleanupExpiredCloudRunArtifacts objects request
    return cleanup.objects

end cleanup

inductive Standing where
  | ignored | malformed
  | own (kind : String) (uri : SplitResult)
  | foreign (kind : String) (uri : SplitResult)
  deriving DecidableEq, Repr

theorem provider_of_named {uri : SplitResult} {id : String} (h : namedObject uri = some id) :
    providerName uri = "local_inline" := by
  rw [namedObject] at h
  split at h
  · exact absurd h (by simp)
  · next hscheme =>
    rw [providerName,not_not.mp hscheme]
    rfl

section standings

variable [UrlText]

def standing (storedObject : CloudRunStoredObject) : Standing :=
  match artifactKindOrNone storedObject.kind, urlsplit storedObject.uri with
  | none,_ => .ignored
  | some _,none => .malformed
  | some kind,some uri => if namedObject uri = some storedObject.id then .own kind uri else .foreign kind uri

def isOwn (storedObject : CloudRunStoredObject) : Bool :=
  match standing storedObject with
  | .own _ _ => true
  | _ => false

def isForeign (storedObject : CloudRunStoredObject) : Bool :=
  match standing storedObject with
  | .foreign _ _ => true
  | _ => false

def isReadable (storedObject : CloudRunStoredObject) : Bool :=
  artifactKindOrNone storedObject.kind = none || (urlsplit storedObject.uri).isSome

theorem readable_iff {storedObject : CloudRunStoredObject} :
    isReadable storedObject = true ↔ standing storedObject ≠ .malformed := by
  rw [isReadable,standing]
  cases artifactKindOrNone storedObject.kind with
  | none => simp
  | some kind =>
    cases urlsplit storedObject.uri with
    | none => simp
    | some uri =>
      simp only [Option.isSome_some,Bool.or_true,true_iff]
      split <;> simp

theorem readable_of_standing {storedObject : CloudRunStoredObject} {s : Standing} (h : standing storedObject = s) (hs : s ≠ .malformed) :
    isReadable storedObject = true := by
  rw [readable_iff,h]
  exact hs

theorem unreadable_of_standing {storedObject : CloudRunStoredObject} (h : standing storedObject = .malformed) :
    isReadable storedObject = false := by
  rw [← Bool.not_eq_true,readable_iff,not_not]
  exact h

theorem readable_of_own {storedObject : CloudRunStoredObject} (h : isOwn storedObject = true) :
    isReadable storedObject = true := by
  rw [readable_iff]
  intro hmalformed
  rw [isOwn,hmalformed] at h
  cases h

-- A pass comes to its end, or to its limit before it meets an uri that is refused.
def Passes (counted : CloudRunStoredObject → Bool) (limit : ℕ) (l : List CloudRunStoredObject) : Prop :=
  (∀ m ∈ l, isReadable m = true) ∨ limit ≤ ((l.takeWhile isReadable).filter counted).length

section passing

variable {counted : CloudRunStoredObject → Bool} {limit : ℕ} {storedObject : CloudRunStoredObject}
  {rest : List CloudRunStoredObject}

theorem passes_zero (l : List CloudRunStoredObject) : Passes counted 0 l := Or.inr (Nat.zero_le _)

theorem passes_counted (h : isReadable storedObject = true) (hc : counted storedObject = true) :
    Passes counted (limit + 1) (storedObject :: rest) ↔ Passes counted limit rest := by
  simp [Passes,h,hc]

theorem passes_uncounted (h : isReadable storedObject = true) (hc : counted storedObject = false) :
    Passes counted limit (storedObject :: rest) ↔ Passes counted limit rest := by
  simp [Passes,h,hc]

theorem not_passes (h : isReadable storedObject = false) :
    ¬ Passes counted (limit + 1) (storedObject :: rest) := by
  simp [Passes,h]

end passing

theorem own_iff {storedObject : CloudRunStoredObject} : isOwn storedObject = true ↔
    artifactKindOrNone storedObject.kind ≠ none ∧
      localInlineObjectId storedObject.uri = some (some storedObject.id) := by
  rw [isOwn,standing,localInlineObjectId]
  cases artifactKindOrNone storedObject.kind with
  | none => simp
  | some kind =>
    cases urlsplit storedObject.uri with
    | none => simp
    | some uri => by_cases h : namedObject uri = some storedObject.id <;> simp [h]

end standings

section passes

variable [UrlText] [Digest] {storedObject : CloudRunStoredObject} {rest l : List CloudRunStoredObject}
  {limit : ℕ} {ids : List String} {reports : List Report}

def deletedReport (storedObject : CloudRunStoredObject) (kind : String) (uri : SplitResult) : Report :=
  (storedObject,cleanupItem storedObject kind (providerName uri) uri.redacted .deleted "local_inline_expired")

def lifecycleReport (storedObject : CloudRunStoredObject) (kind : String) (uri : SplitResult) : Report :=
  (storedObject,cleanupItem storedObject kind (providerName uri) uri.redacted .lifecycleOnly
    (if providerName uri = "local_inline" then "local_inline_reference_mismatch"
      else "external_provider_cleanup_not_supported_by_api"))

theorem deletePass_cons : deletePass (limit + 1) (storedObject :: rest) =
    match standing storedObject with
    | .malformed => .error (.unhandled "ValueError")
    | .own kind uri => (deletePass limit rest).map fun reports => deletedReport storedObject kind uri :: reports
    | _ => deletePass (limit + 1) rest := by
  rw [deletePass,standing]
  cases artifactKindOrNone storedObject.kind with
  | none => rfl
  | some kind =>
    simp only [providerNameFromUri,localInlineObjectId,redactUri]
    cases urlsplit storedObject.uri with
    | none => rfl
    | some uri =>
      simp only [Option.map_some,parsed,bind,Except.bind]
      by_cases h : namedObject uri = some storedObject.id
      · simp only [provider_of_named h,h,ne_eq,not_true,or_self,if_false,if_true]
        cases deletePass limit rest with
        | error e => rfl
        | ok reports => simp [pure,Except.pure,Except.map,deletedReport,provider_of_named h]
      · simp [h]

theorem lifecyclePass_cons (hid : storedObject.id ∉ ids) : lifecyclePass ids (limit + 1) (storedObject :: rest) =
    match standing storedObject with
    | .malformed => .error (.unhandled "ValueError")
    | .foreign kind uri =>
      (lifecyclePass ids limit rest).map fun reports => lifecycleReport storedObject kind uri :: reports
    | _ => lifecyclePass ids (limit + 1) rest := by
  rw [lifecyclePass,if_neg hid,standing]
  cases artifactKindOrNone storedObject.kind with
  | none => rfl
  | some kind =>
    simp only [providerNameFromUri,localInlineObjectId,redactUri]
    cases urlsplit storedObject.uri with
    | none => rfl
    | some uri =>
      simp only [Option.map_some,parsed,bind,Except.bind]
      by_cases h : namedObject uri = some storedObject.id
      · simp [provider_of_named h,h]
      · simp only [h,and_false,if_false]
        cases lifecyclePass ids limit rest with
        | error e => rfl
        | ok reports => rfl

theorem lifecyclePass_skip (hid : storedObject.id ∈ ids) :
    lifecyclePass ids (limit + 1) (storedObject :: rest) = lifecyclePass ids (limit + 1) rest := by
  rw [lifecyclePass,if_pos hid]

theorem deletePass_spec (h : deletePass limit l = .ok reports) :
    reports.map Prod.fst = (l.filter isOwn).take limit ∧ ∀ r ∈ reports, r.2.action = .deleted := by
  induction l generalizing limit reports with
  | nil =>
    have hnil : reports = [] := by cases limit <;> exact (Except.ok.inj h).symm
    subst hnil
    simp
  | cons storedObject rest ih =>
    cases limit with
    | zero =>
      rw [deletePass] at h
      rw [← Except.ok.inj h]
      simp
    | succ limit =>
      rw [deletePass_cons] at h
      cases hstanding : standing storedObject with
      | malformed =>
        rw [hstanding] at h
        exact absurd h (by simp)
      | own kind uri =>
        rw [hstanding] at h
        cases hrest : deletePass limit rest with
        | error e =>
          rw [hrest] at h
          exact absurd h (by simp [Except.map])
        | ok reports' =>
          rw [hrest] at h
          obtain ⟨hrows,hactions⟩ := ih hrest
          rw [← Except.ok.inj h]
          have hown : isOwn storedObject = true := by rw [isOwn,hstanding]
          constructor
          · rw [List.filter_cons_of_pos hown,List.take_succ_cons,← hrows]
            rfl
          · intro r hr
            rcases List.mem_cons.mp hr with rfl | hr
            · rfl
            · exact hactions r hr
      | ignored | foreign _ _ =>
        rw [hstanding] at h
        obtain ⟨hrows,hactions⟩ := ih h
        have hown : ¬ isOwn storedObject = true := by simp [isOwn,hstanding]
        rw [List.filter_cons_of_neg hown]
        exact ⟨hrows,hactions⟩

theorem deletePass_returns_iff :
    (∃ reports, deletePass limit l = .ok reports) ↔ Passes isOwn limit l := by
  induction l generalizing limit with
  | nil => cases limit <;> exact ⟨fun _ => Or.inl (by simp),fun _ => ⟨_,rfl⟩⟩
  | cons storedObject rest ih =>
    cases limit with
    | zero => exact ⟨fun _ => passes_zero _,fun _ => ⟨_,by rw [deletePass]⟩⟩
    | succ limit =>
      rw [deletePass_cons]
      cases hstanding : standing storedObject with
      | malformed => simp [not_passes (unreadable_of_standing hstanding)]
      | own kind uri =>
        rw [passes_counted (readable_of_standing hstanding (by simp)) (by rw [isOwn,hstanding]),← ih]
        cases deletePass limit rest with
        | error e => simp [Except.map]
        | ok reports => simp [Except.map]
      | ignored | foreign _ _ =>
        rw [passes_uncounted (readable_of_standing hstanding (by simp)) (by rw [isOwn,hstanding])]
        exact ih

theorem lifecyclePass_spec (h : lifecyclePass ids limit l = .ok reports) :
    (reports.map Prod.fst).Sublist l ∧ ∀ r ∈ reports, r.1.id ∉ ids ∧ r.2.action = .lifecycleOnly := by
  induction l generalizing limit reports with
  | nil =>
    have hnil : reports = [] := by cases limit <;> exact (Except.ok.inj h).symm
    subst hnil
    simp
  | cons storedObject rest ih =>
    cases limit with
    | zero =>
      rw [lifecyclePass] at h
      rw [← Except.ok.inj h]
      simp
    | succ limit =>
      by_cases hid : storedObject.id ∈ ids
      · rw [lifecyclePass_skip hid] at h
        exact ⟨(ih h).1.cons _,(ih h).2⟩
      · rw [lifecyclePass_cons hid] at h
        cases hstanding : standing storedObject with
        | malformed =>
          rw [hstanding] at h
          exact absurd h (by simp)
        | foreign kind uri =>
          rw [hstanding] at h
          cases hrest : lifecyclePass ids limit rest with
          | error e =>
            rw [hrest] at h
            exact absurd h (by simp [Except.map])
          | ok reports' =>
            rw [hrest] at h
            obtain ⟨hrows,hreports⟩ := ih hrest
            rw [← Except.ok.inj h]
            refine ⟨hrows.cons_cons _,?_⟩
            intro r hr
            rcases List.mem_cons.mp hr with rfl | hr
            · exact ⟨hid,rfl⟩
            · exact hreports r hr
        | ignored | own _ _ =>
          rw [hstanding] at h
          exact ⟨(ih h).1.cons _,(ih h).2⟩

-- No row that the pass leaves out would count.
theorem lifecyclePass_returns_iff (hids : ∀ r ∈ l, r.id ∈ ids → isOwn r = true) :
    (∃ reports, lifecyclePass ids limit l = .ok reports) ↔ Passes isForeign limit l := by
  induction l generalizing limit with
  | nil => cases limit <;> exact ⟨fun _ => Or.inl (by simp),fun _ => ⟨_,rfl⟩⟩
  | cons storedObject rest ih =>
    have hrest : (∃ reports, lifecyclePass ids limit rest = .ok reports) ↔ Passes isForeign limit rest :=
      ih fun r hr => hids r (List.mem_cons_of_mem _ hr)
    cases limit with
    | zero => exact ⟨fun _ => passes_zero _,fun _ => ⟨_,by rw [lifecyclePass]⟩⟩
    | succ limit =>
      by_cases hid : storedObject.id ∈ ids
      · have hown := hids storedObject List.mem_cons_self hid
        have hforeign : isForeign storedObject = false := by
          rw [isOwn] at hown
          rw [isForeign]
          split at hown
          · next hstanding => rw [hstanding]
          · cases hown
        rw [lifecyclePass_skip hid,passes_uncounted (readable_of_own hown) hforeign]
        exact hrest
      · rw [lifecyclePass_cons hid]
        cases hstanding : standing storedObject with
        | malformed => simp [not_passes (unreadable_of_standing hstanding)]
        | foreign kind uri =>
          rw [passes_counted (readable_of_standing hstanding (by simp)) (by rw [isForeign,hstanding]),
            ← ih fun r hr => hids r (List.mem_cons_of_mem _ hr)]
          cases lifecyclePass ids limit rest with
          | error e => simp [Except.map]
          | ok reports => simp [Except.map]
        | ignored | own _ _ =>
          rw [passes_uncounted (readable_of_standing hstanding (by simp)) (by rw [isForeign,hstanding])]
          exact hrest

end passes

end AiScdc.ArtifactPlane
