import AiScdc.Entities
import AiScdc.Transaction.Stage

namespace AiScdc
open Transaction

inductive Exn where
  | http (statusCode : ℕ) (detail : String)
  | integrityError
  | unhandled (name : String)
  deriving DecidableEq, Repr

def Exn.isHttp : Exn → Bool
  | .http _ _ => true
  | _ => false

abbrev Op (α : Type) := Prog Row Time Exn α

abbrev OpPost (α : Type) := Transaction.Post Row α

def utcNow : Op Time := .utcNow .pure

def freshId : Op Id := .freshId .pure

def commit : Op Unit := .commit (.pure ())

def rollback : Op Unit := .rollback (.pure ())

def httpError {α : Type} (statusCode : ℕ) (detail : String) : Op α := .throw (.http statusCode detail)

def get (k : Key) : Op (Row k) := .select fun db _ => .pure (db k)

def getOr404 (k : Key) (detail : String) : Op k.Entity := do
  match ← get k with
  | some row => pure row
  | none => httpError 404 detail

def selectWhere {α : Type} (key : Id → Key) (view : ∀ i, (key i).Entity → Option α) : Op (List α) :=
  .select fun db next => .pure ((List.range next).filterMap fun i => (db (key i)).bind (view i))

def updateWhere (k : Key) (guard : k.Entity → Bool) (values : k.Entity → k.Entity) : Op Bool :=
  .update k (fun row => row.any guard) (fun row => row.map values) .pure

def flush (k : Key) (loaded new : k.Entity) : Op Unit := .flush k (some loaded) (some new) (.pure ())

def insert (k : Key) (row : k.Entity) : Op Unit := do
  if ← (.update k (fun row => row.isNone) (fun _ => some row) .pure : Op Bool) then pure ()
  else .throw .integrityError

structure AuthContext where
  workspaceId : Id
  permitted : Bool
  deriving DecidableEq, Repr

def currentWorkspaceId : Option AuthContext → Op Id
  | some ctx => pure ctx.workspaceId
  | none => httpError 401 "Authentication is required"

def enforceWorkspaceAccess (ctx : Option AuthContext) (workspaceId : Id) (detail : String) : Op Unit :=
  match ctx with
  | some c => if workspaceId = c.workspaceId then pure () else httpError 404 detail
  | none => pure ()

-- A refused permission rolls back and commits its audit rows, which the model leaves out.
def requireAuditedPermissionIfAuthenticated (ctx : Option AuthContext) : Op Unit :=
  match ctx with
  | some c =>
      if c.permitted then pure ()
      else do
        rollback
        commit
        httpError 403 "Insufficient workspace role"
  | none => pure ()

def getProject (ctx : Option AuthContext) (projectId : Id) : Op Project := do
  let project ← getOr404 (.project projectId) "Project not found"
  enforceWorkspaceAccess ctx project.workspaceId "Project not found"
  pure project

def getTask (ctx : Option AuthContext) (taskId : Id) : Op Task := do
  let task ← getOr404 (.task taskId) "Task not found"
  let _ ← getProject ctx task.projectId
  pure task

def getRepository (ctx : Option AuthContext) (repoId : Id) : Op Repository := do
  let repository ← getOr404 (.repository repoId) "Repository not found"
  enforceWorkspaceAccess ctx repository.workspaceId "Repository not found"
  pure repository

section rules

variable {α : Type} {p : Pending Row} {w : World}

@[simp] theorem wp_utcNow {D : Discipline Row} {Q : OpPost Time} {E : OpPost Exn} :
    wp D utcNow Q E p w ↔ ∀ t, Q t p w := Iff.rfl

@[simp] theorem wp_freshId {Q : OpPost Id} {E : OpPost Exn} :
    wp alone freshId Q E p w ↔ Q w.next p w.bump := by simp [freshId]

@[simp] theorem wp_commit {Q : OpPost Unit} {E : OpPost Exn} :
    wp alone commit Q E p w ↔ Q () Pending.empty ⟨p.view w.db,w.next⟩ := by simp [commit]

@[simp] theorem wp_rollback {Q : OpPost Unit} {E : OpPost Exn} :
    wp alone rollback Q E p w ↔ Q () Pending.empty w := by simp [rollback]

@[simp] theorem wp_httpError {D : Discipline Row} {Q : OpPost α} {E : OpPost Exn}
    (statusCode : ℕ) (detail : String) : wp D (httpError statusCode detail) Q E p w ↔ E (.http statusCode detail) p w := Iff.rfl

theorem wp_get {D : Discipline Row} (k : Key) {Q : OpPost (Row k)} {E : OpPost Exn} :
    wp D (get k) Q E p w ↔ ∀ w', Env D p w w' → Q (p.view w'.db k) p w' := Iff.rfl

@[simp] theorem wp_selectWhere {key : Id → Key} {view : ∀ i, (key i).Entity → Option α}
    {Q : OpPost (List α)} {E : OpPost Exn} :
    wp alone (selectWhere key view) Q E p w ↔
      Q ((List.range w.next).filterMap fun i => (p.view w.db (key i)).bind (view i)) p w := by
  simp [selectWhere]

theorem wp_freshId_env {D : Discipline Row} {Q : OpPost Id} {E : OpPost Exn} :
    wp D freshId Q E p w ↔ ∀ w', Env D p w w' → Q w'.next p w'.bump := Iff.rfl

theorem wp_updateWhere {k : Key} {guard : k.Entity → Bool} {values : k.Entity → k.Entity}
    {Q : OpPost Bool} {E : OpPost Exn} : wp alone (updateWhere k guard values) Q E p w ↔
      (∀ row, p.view w.db k = some row → guard row = true →
        Q true (p.put k (w.db k) (some (values row))) w) ∧
      ((∀ row, p.view w.db k = some row → guard row = false) → Q false p w) := by
  simp only [updateWhere,alone_update,alone_pure]
  cases p.view w.db k <;> simp

theorem wp_flush {k : Key} {loaded new : k.Entity} {Q : OpPost Unit} {E : OpPost Exn} :
    wp alone (flush k loaded new) Q E p w ↔
      (loaded = new → Q () p w) ∧ (loaded ≠ new → Q ()
        (p.put k (some loaded) (mergeRow k (some loaded) (some new) (p.view w.db k))) w) := by
  simp [flush,Schema.merge]

theorem wp_flush_current {k : Key} {loaded new : k.Entity} {Q : OpPost Unit} {E : OpPost Exn}
    (h : p.view w.db k = some loaded) (hne : loaded ≠ new) :
    wp alone (flush k loaded new) Q E p w ↔ Q () (p.put k (some loaded) (some new)) w := by
  simp [wp_flush,h,hne,mergeRow_loaded]

theorem wp_insert {k : Key} {row : k.Entity} {Q : OpPost Unit} {E : OpPost Exn} :
    wp alone (insert k row) Q E p w ↔
      (p.view w.db k = none → Q () (p.put k (w.db k) (some row)) w) ∧
      (p.view w.db k ≠ none → E .integrityError p w) := by
  simp only [insert,wp_monad_bind,alone_update]
  cases p.view w.db k <;> simp

end rules

section stages

variable {α : Type} {s : Stage Row}

theorem serial_now {Q : Time → Stage Row → Prop} {E : Exn → Stage Row → Prop} (h : ∀ t, Q t s) :
    Serial utcNow Q E s := serial_utcNow fun t => serial_pure (h t)

theorem serial_fresh {Q : Id → Stage Row → Prop} {E : Exn → Stage Row → Prop} (h : Q s.next s.bump) :
    Serial freshId Q E s := serial_freshId (serial_pure h)

theorem serial_commitNow {Q : Unit → Stage Row → Prop} {E : Exn → Stage Row → Prop}
    (h : Q () s.commit) : Serial commit Q E s := serial_commit (serial_pure h)

theorem serial_rollbackNow {Q : Unit → Stage Row → Prop} {E : Exn → Stage Row → Prop}
    (h : Q () s.rollback) : Serial rollback Q E s := serial_rollback (serial_pure h)

theorem serial_http {Q : α → Stage Row → Prop} {E : Exn → Stage Row → Prop} {statusCode : ℕ}
    {detail : String} (h : E (.http statusCode detail) s) :
    Serial (httpError statusCode detail) Q E s := serial_throw h

theorem serial_get {k : Key} {Q : Row k → Stage Row → Prop} {E : Exn → Stage Row → Prop}
    (h : Q (s.current k) s) : Serial (get k) Q E s := serial_select (serial_pure h)

theorem serial_getOr404 {k : Key} {detail : String} {Q : k.Entity → Stage Row → Prop}
    {E : Exn → Stage Row → Prop} (hsome : ∀ row, s.current k = some row → Q row s)
    (hnone : s.current k = none → E (.http 404 detail) s) : Serial (getOr404 k detail) Q E s := by
  refine serial_bind (serial_get ?_)
  cases h : s.current k with
  | none => exact serial_http (hnone h)
  | some row => exact serial_pure (hsome row h)

theorem serial_selectWhere {key : Id → Key} {view : ∀ i, (key i).Entity → Option α}
    {Q : List α → Stage Row → Prop} {E : Exn → Stage Row → Prop}
    (h : Q ((List.range s.next).filterMap fun i => (s.current (key i)).bind (view i)) s) :
    Serial (selectWhere key view) Q E s := serial_select (serial_pure h)

theorem serial_updateWhere {k : Key} {guard : k.Entity → Bool} {values : k.Entity → k.Entity}
    {Q : Bool → Stage Row → Prop} {E : Exn → Stage Row → Prop} {row : k.Entity}
    (hrow : s.current k = some row)
    (ht : guard row = true → Q true (s.write k (some (values row))))
    (hf : guard row = false → Q false s) : Serial (updateWhere k guard values) Q E s := by
  refine serial_update (fun hg => serial_pure ?_) (fun hg => serial_pure (hf ?_))
  · rw [hrow] at hg ⊢
    exact ht hg
  · rwa [hrow] at hg

theorem serial_flushRow {k : Key} {loaded new : k.Entity} {Q : Unit → Stage Row → Prop}
    {E : Exn → Stage Row → Prop} (hrow : s.current k = some loaded)
    (h : Q () (s.write k (some new))) : Serial (flush k loaded new) Q E s := by
  refine serial_flush (fun heq => serial_pure ?_) (fun _ => serial_pure ?_)
  · cases heq
    rwa [Stage.write_same s k _ hrow] at h
  · rw [hrow]
    simpa [Schema.merge,mergeRow_loaded] using h

theorem serial_insert {k : Key} {row : k.Entity} {Q : Unit → Stage Row → Prop}
    {E : Exn → Stage Row → Prop} (hnone : s.current k = none)
    (h : Q () (s.write k (some row))) : Serial (insert k row) Q E s := by
  refine serial_bind (serial_update (fun _ => serial_pure (serial_pure h)) fun hg => ?_)
  simp [hnone] at hg

end stages

end AiScdc
