import AiScdc.Budgeting
import AiScdc.ObjectStorage
import AiScdc.Transaction.Footprint

namespace AiScdc
open Transaction

section statements

variable {G α β : Type} {P : Course Row G} {Φ : G → Prop}

-- No phase of Φ regulates how the row is written.
structure Unregulated (P : Course Row G) (Φ : G → Prop) (k : Key) : Prop where
  update : ∀ g s x, Φ x → ∃ y, Φ y ∧ P.update x k g s y
  flush : ∀ l n x, Φ x → ∃ y, Φ y ∧ P.flush x k l n y

structure Resets (P : Course Row G) (Φ : G → Prop) : Prop where
  commit : ∀ x, Φ x → ∃ y, Φ y ∧ P.commit x y
  rollback : ∀ x, Φ x → ∃ y, Φ y ∧ P.rollback x y

theorem obeys_utcNow : Obeys P Φ utcNow := fun _ hx _ => hx

theorem obeys_freshId : Obeys P Φ freshId := .freshId fun _ => .pure _

theorem obeys_http (statusCode : ℕ) (detail : String) :
    Obeys P Φ (httpError statusCode detail : Op α) := fun _ hx => hx

theorem gives_http (statusCode : ℕ) (detail : String) {R : α → Prop} :
    Gives P Φ (httpError statusCode detail : Op α) R := fun _ hx => hx

theorem obeys_get (k : Key) : Obeys P Φ (get k) := .select fun _ _ => .pure _

theorem obeys_getOr404 (k : Key) (detail : String) : Obeys P Φ (getOr404 k detail) := by
  refine (obeys_get k).bind fun row => ?_
  cases row with
  | none => exact obeys_http 404 detail
  | some row => exact .pure row

theorem writes_getOr404 {k : Key} {detail : String} {x : G} {Q : k.Entity → G → Prop}
    {E : Exn → G → Prop}
    (hsome : ∀ db n row, db k = some row → ∃ y, (y = x ∨ P.learn x db n y) ∧ Q row y)
    (hnone : E (.http 404 detail) x) : Writes P x (getOr404 k detail) Q E := by
  refine Writes.bind fun db n => ?_
  cases h : db k with
  | none =>
    refine ⟨x,Or.inl rfl,?_⟩
    simp only [Writes,h]
    exact hnone
  | some row =>
    obtain ⟨y,hy,hQ⟩ := hsome db n row h
    refine ⟨y,hy,?_⟩
    simp only [Writes,h]
    exact hQ

theorem obeys_selectWhere {key : Id → Key} {view : ∀ i, (key i).Entity → Option α} :
    Obeys P Φ (selectWhere key view) := .select fun _ _ => .pure _

theorem obeys_commit (h : Resets P Φ) : Obeys P Φ commit := .commit h.commit (.pure ())

theorem obeys_rollback (h : Resets P Φ) : Obeys P Φ rollback := .rollback h.rollback (.pure ())

theorem obeys_updateWhere {k : Key} {guard : k.Entity → Bool} {values : k.Entity → k.Entity}
    (h : ∀ x, Φ x → ∃ y, Φ y ∧ P.update x k (fun row => row.any guard) (fun row => row.map values) y) :
    Obeys P Φ (updateWhere k guard values) := .update h fun _ => .pure _

theorem obeys_flush {k : Key} {loaded new : k.Entity}
    (h : ∀ x, Φ x → ∃ y, Φ y ∧ P.flush x k (some loaded) (some new) y) :
    Obeys P Φ (flush k loaded new) := .flush (fun _ => h) (.pure ())

theorem obeys_insert {k : Key} {row : k.Entity}
    (h : ∀ x, Φ x → ∃ y, Φ y ∧ P.update x k (fun row => row.isNone) (fun _ => some row) y) :
    Obeys P Φ (insert k row) := by
  refine Obeys.bind (.update h fun _ => .pure _) fun b => ?_
  cases b with
  | false => exact .raise _
  | true => exact .pure ()

theorem obeys_currentWorkspaceId (ctx : Option AuthContext) : Obeys P Φ (currentWorkspaceId ctx) := by
  cases ctx with
  | none => exact obeys_http _ _
  | some c => exact .pure _

theorem obeys_enforce (ctx : Option AuthContext) (workspaceId : Id) (detail : String) :
    Obeys P Φ (enforceWorkspaceAccess ctx workspaceId detail) := by
  cases ctx with
  | none => exact .pure ()
  | some c =>
    unfold enforceWorkspaceAccess
    dsimp only
    split
    · exact .pure ()
    · exact obeys_http _ _

theorem obeys_requirePermission (h : Resets P Φ) (ctx : Option AuthContext) :
    Obeys P Φ (requireAuditedPermissionIfAuthenticated ctx) := by
  cases ctx with
  | none => exact .pure ()
  | some c =>
    unfold requireAuditedPermissionIfAuthenticated
    dsimp only
    split
    · exact .pure ()
    · exact (obeys_rollback h).bind fun _ => (obeys_commit h).bind fun _ => obeys_http _ _

theorem obeys_getProject (ctx : Option AuthContext) (id : Id) : Obeys P Φ (getProject ctx id) :=
  (obeys_getOr404 _ _).bind fun _ => (obeys_enforce _ _ _).bind fun _ => .pure _

theorem obeys_getTask (ctx : Option AuthContext) (id : Id) : Obeys P Φ (getTask ctx id) :=
  (obeys_getOr404 _ _).bind fun _ => (obeys_getProject _ _).bind fun _ => .pure _

theorem obeys_getRepository (ctx : Option AuthContext) (id : Id) :
    Obeys P Φ (getRepository ctx id) :=
  (obeys_getOr404 _ _).bind fun _ => (obeys_enforce _ _ _).bind fun _ => .pure _

end statements

section budget

def Resummed (cloudRun cloudRun' : CloudRun) : Prop :=
  ∃ actualCostCents costSummary, cloudRun' = { cloudRun with actualCostCents, costSummary }

theorem Resummed.same (cloudRun : CloudRun) : Resummed cloudRun cloudRun := ⟨_,_,rfl⟩

variable {G : Type} {P : Course Row G} {Φ : G → Prop}

def Key.isBudget : Key → Bool
  | .creditWallet _ | .budgetReservation _ | .cloudRunUsage _ _ => true
  | _ => false

variable (h : ∀ k : Key, k.isBudget → Unregulated P Φ k)

include h

theorem obeys_getOrCreateWallet (workspaceId : Id) :
    Obeys P Φ (getOrCreateWalletForScope workspaceId) := by
  refine (obeys_get _).bind fun wallet => ?_
  cases wallet with
  | some wallet => exact .pure wallet
  | none =>
    refine obeys_utcNow.bind fun createdAt => ?_
    exact (obeys_insert ((h (.creditWallet workspaceId) rfl).update _ _)).bind fun _ => .pure _

theorem obeys_refund (reservation : BudgetReservation) (cents : ℤ) :
    Obeys P Φ (refund reservation cents) :=
  (obeys_getOrCreateWallet h _).bind fun _ => obeys_utcNow.bind fun _ =>
    obeys_flush ((h (.creditWallet _) rfl).flush _ _)

omit h in
theorem obeys_activeReservation (cloudRun : CloudRun) :
    Obeys P Φ (activeReservationForCloudRun cloudRun) := by
  unfold activeReservationForCloudRun
  split
  · exact .pure none
  · refine (obeys_get _).bind fun row => ?_
    cases row with
    | none => exact .pure none
    | some r =>
      dsimp only
      split
      · exact .pure _
      · exact .pure none

theorem obeys_transitionReserved (ρ : Id) (status : BudgetReservationStatus) (cents : ℤ)
    (settledAt : Time) : Obeys P Φ (transitionReservedReservation ρ status cents settledAt) :=
  obeys_updateWhere ((h (.budgetReservation ρ) rfl).update _ _)

theorem gives_release (cloudRun : CloudRun) : Gives P Φ (releaseCloudRunReservation cloudRun)
    (Resummed cloudRun) := by
  refine (obeys_activeReservation cloudRun).gives fun active => ?_
  cases active with
  | none => exact .pure (.same cloudRun)
  | some entry =>
    refine obeys_utcNow.gives fun now => (obeys_transitionReserved h _ _ _ _).gives fun b => ?_
    cases b with
    | false => exact .pure (.same cloudRun)
    | true => exact (obeys_refund h _ _).gives fun _ => .pure ⟨_,_,rfl⟩

theorem obeys_appendCloudRunUsage (cloudRunId : Id) (cloudRun : CloudRun) (m : UsageMeasurement) :
    Obeys P Φ (appendCloudRunUsage cloudRunId cloudRun m) := by
  refine (obeys_get _).bind fun row => ?_
  cases row with
  | some entry => exact .pure ()
  | none =>
    refine obeys_utcNow.bind fun createdAt => Obeys.tryCatch ?_ fun e => ?_
    · exact obeys_insert ((h (.cloudRunUsage cloudRunId m.usageType) rfl).update _ _)
    · split
      · exact .pure ()
      · exact .throw e

theorem obeys_appendAllUsage (cloudRunId : Id) (cloudRun : CloudRun) (usage : List UsageMeasurement) :
    Obeys P Φ (appendAllUsage cloudRunId cloudRun usage) := by
  induction usage with
  | nil => exact .pure ()
  | cons m ms ih => exact (obeys_appendCloudRunUsage h _ _ m).bind fun _ => ih

omit h in
theorem obeys_measurements (cloudRunId : Id) (cloudRun : CloudRun) :
    Obeys P Φ (cloudRunUsageMeasurements cloudRunId cloudRun) :=
  (obeys_selectWhere.bind fun _ => .pure _).bind fun _ => .pure _

theorem gives_settle (cloudRunId : Id) (cloudRun : CloudRun) :
    Gives P Φ (settleCloudRunBudget cloudRunId cloudRun) (Resummed cloudRun) := by
  refine (obeys_activeReservation cloudRun).gives fun active => ?_
  cases active with
  | none => exact .pure (.same cloudRun)
  | some entry =>
    refine (obeys_measurements _ _).gives fun usage => obeys_utcNow.gives fun now => ?_
    refine (obeys_transitionReserved h _ _ _ _).gives fun b => ?_
    cases b with
    | false => exact .pure (.same cloudRun)
    | true =>
      refine (obeys_appendAllUsage h _ _ _).gives fun _ => ?_
      exact (obeys_refund h _ _).gives fun _ => .pure ⟨_,_,rfl⟩

omit h in
theorem obeys_ensureSpendLimit (workspaceId : Id) (cents : ℤ) :
    Obeys P Φ (ensureSpendLimitAllows workspaceId cents) := by
  refine (obeys_get _).bind fun row => ?_
  split
  · exact .pure ()
  · split
    · exact obeys_http _ _
    · split
      · refine Obeys.bind ?_ fun total => ?_
        · exact obeys_utcNow.bind fun _ => obeys_selectWhere.bind fun _ =>
            obeys_selectWhere.bind fun _ => .pure _
        · split
          · exact obeys_http _ _
          · exact .pure ()
      · exact .pure ()

omit h in
theorem obeys_activeWallet (workspaceId : Id) : Obeys P Φ (activeWalletOr402 workspaceId) := by
  refine (obeys_get _).bind fun row => ?_
  cases row with
  | none => exact obeys_http _ _
  | some wallet =>
    dsimp only
    split
    · exact obeys_http _ _
    · exact .pure wallet

theorem obeys_reserve (ctx : Option AuthContext) (projectId taskId : Id) :
    Obeys P Φ (reserveCloudRunBudget ctx projectId taskId) := by
  refine (obeys_currentWorkspaceId ctx).bind fun workspaceId => ?_
  refine (obeys_ensureSpendLimit workspaceId _).bind fun _ => ?_
  refine (obeys_activeWallet workspaceId).bind fun wallet => ?_
  split
  · exact obeys_http _ _
  · refine obeys_utcNow.bind fun _ => obeys_freshId.bind fun ρ => obeys_utcNow.bind fun _ => ?_
    refine (obeys_flush ((h (.creditWallet workspaceId) rfl).flush _ _)).bind fun _ => ?_
    exact (obeys_insert ((h (.budgetReservation ρ) rfl).update _ _)).bind fun _ => .pure _

end budget

section storage

variable {G : Type} {P : Course Row G} {Φ : G → Prop}

theorem obeys_readLocalInline [Digest] (objectId : Id) (ref : ArtifactRef) :
    Obeys P Φ (readLocalInline objectId ref) := by
  refine (obeys_get _).bind fun row => ?_
  cases row with
  | none => exact obeys_http _ _
  | some stored =>
    dsimp only
    repeat' split
    all_goals first | exact obeys_http _ _ | exact .pure _

theorem obeys_readText [Digest] (oss : ArtifactRef → OssReply) (ref : ArtifactRef) :
    Obeys P Φ (readText oss ref) := by
  unfold readText
  split
  · exact obeys_readLocalInline _ _
  · unfold readOss
    repeat' split
    all_goals first | exact obeys_http _ _ | exact .pure _ | exact .raise _
  · exact obeys_http _ _

theorem obeys_putText [Digest] (h : ∀ id, Unregulated P Φ (.storedObject id))
    (write : ObjectStorageWrite) (uri : Id → ObjectUri) (text : String) :
    Obeys P Φ (putText write uri text) :=
  obeys_freshId.bind fun objectId => (obeys_insert ((h objectId).update _ _)).bind fun _ => .pure _

end storage

section callback

variable {G α : Type} {P : Course Row G} {Φ : G → Prop} (h : Resets P Φ)

include h

theorem obeys_reject (statusCode : ℕ) (detail : String) :
    Obeys P Φ (rejectWorkerAuthentication statusCode detail : Op α) :=
  (obeys_commit h).bind fun _ => obeys_http _ _

theorem gives_reject (statusCode : ℕ) (detail : String) {R : α → Prop} :
    Gives P Φ (rejectWorkerAuthentication statusCode detail : Op α) R :=
  (obeys_commit h).gives fun _ => gives_http _ _

theorem obeys_requirePresented (callbackToken : Option String) :
    Obeys P Φ (requirePresentedWorkerCallbackCredential callbackToken) := by
  unfold requirePresentedWorkerCallbackCredential
  split
  · exact obeys_reject h _ _
  · exact .pure ()

theorem obeys_verifyToken [Digest] (cloudRunId : Id) (cloudRun : CloudRun) (workerId : String)
    (callbackToken : Option String) (now : Option Time) (requireToken : Bool) :
    Obeys P Φ (verifyCloudRunCallbackTokenOr403 cloudRunId cloudRun workerId callbackToken now
      requireToken) := by
  unfold verifyCloudRunCallbackTokenOr403
  split
  · split
    · exact obeys_reject h _ _
    · exact .pure ()
  · split
    · exact obeys_reject h _ _
    · split
      · exact obeys_reject h _ _
      · split
        · exact obeys_reject h _ _
        · refine Obeys.bind ?_ fun t => ?_
          · cases now with
            | none => exact obeys_utcNow
            | some t => exact .pure t
          · split
            · exact obeys_reject h _ _
            · split
              · exact .pure ()
              · exact obeys_reject h _ _

end callback

end AiScdc
