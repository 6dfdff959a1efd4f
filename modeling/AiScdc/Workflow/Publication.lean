import AiScdc.Workflow.History
import AiScdc.Workflow.Walks

namespace AiScdc
open Transaction

structure Acceptable (artifact : PatchArtifact) (task : Task) : Prop where
  diffText : isBlank artifact.diffText = false
  filesChanged : artifact.filesChanged ≠ []
  allowed : ensureChangedFilesAllowed artifact.filesChanged task.allowedPaths = .ok ()

structure RecordOk (db : Db) (approvalId : Id) (record : PullRequestRecord) (approval : PatchApproval) :
    Prop where
  row : db (.patchApproval record.patchArtifactId) = some approval
  id : approval.id = approvalId
  taskId : approval.taskId = record.taskId
  workspaceId : approval.workspaceId = record.workspaceId

structure ApprovalOk (db : Db) (patchArtifactId : Id) (approval : PatchApproval) (review : PatchReview) :
    Prop where
  row : db (.patchReview patchArtifactId) = some review
  id : approval.reviewId = review.id
  verdict : review.verdict = .approved
  taskId : approval.taskId = review.taskId

structure ReviewOk (db : Db) (patchArtifactId : Id) (review : PatchReview) (artifact : PatchArtifact)
    (task : Task) : Prop where
  artifactRow : db (.patchArtifact patchArtifactId) = some artifact
  taskId : artifact.taskId = review.taskId
  taskRow : db (.task review.taskId) = some task
  acceptable : review.verdict = .approved → Acceptable artifact task

structure CallOk (db : Db) (approvalId : Id) (call : PullRequestCall) (record : PullRequestRecord)
    (artifact : PatchArtifact) : Prop where
  recordRow : db (.pullRequest approvalId) = some record
  artifactRow : db (.patchArtifact record.patchArtifactId) = some artifact
  diffText : call.diffText = artifact.diffText

structure Chain (db : Db) (next : ℕ) : Prop where
  records : ∀ i r, db (.pullRequest i) = some r → ∃ a, RecordOk db i r a
  approvals : ∀ i a, db (.patchApproval i) = some a → ∃ v, ApprovalOk db i a v
  reviews : ∀ i v, db (.patchReview i) = some v → ∃ a t, ReviewOk db i v a t
  calls : ∀ i cs c, db (.githubCalls i) = some cs → c ∈ cs → ∃ r a, CallOk db i c r a
  testRuns : ∀ i r, db (.localTestRun i) = some r → i < next

-- The review rests on what the database holds, the latest test run included.
def Checked (db : Db) (next : ℕ) (patchArtifactId : Id) (review : PatchReview) : Prop :=
  ∃ artifact task, ReviewOk db patchArtifactId review artifact task ∧
    (review.verdict = .approved → ∃ testRunId testRun,
      latestTestRunIn db next patchArtifactId = some (testRunId,testRun) ∧
        testRun.status = "passed" ∧ review.testRunId = some testRunId)

def RowGrows (db : Db) (next : ℕ) : ∀ k : Key, Row k → Row k → Prop
  | .task _, o, n => ∀ t, o = some t → ∃ t', n = some t' ∧ SameTask t t'
  | .patchArtifact _, o, n => ∀ a, o = some a → ∃ a', n = some a' ∧ SamePatch a a'
  | .patchReview i, o, n => n = o ∨ (o = none ∧ ∃ v, n = some v ∧ ∃ a t, ReviewOk db i v a t)
  | .patchApproval i, o, n => n = o ∨ (o = none ∧ ∃ a, n = some a ∧ ∃ v, ApprovalOk db i a v)
  | .pullRequest i, o, n => (∀ r, o = some r → ∃ r', n = some r' ∧ SameRecord r r') ∧
      ∀ r', n = some r' → o = none → ∃ a, RecordOk db i r' a
  | .githubCalls i, o, n => ∀ cs c, n = some cs → c ∈ cs →
      (∃ cs', o = some cs' ∧ c ∈ cs') ∨ ∃ r a, CallOk db i c r a
  | .localTestRun i, o, n => n ≠ none → o ≠ none ∨ i < next
  | _, _, _ => True

def Grows (db db' : Db) (next : ℕ) : Prop := ∀ k, RowGrows db next k (db k) (db' k)

section growing

variable {db db' : Db} {next : ℕ}

theorem sameTask_refl (t : Task) : SameTask t t := ⟨rfl,rfl,rfl,rfl⟩

theorem samePatch_refl (a : PatchArtifact) : SamePatch a a := ⟨rfl,rfl,rfl,rfl,rfl⟩

theorem sameRecord_refl (r : PullRequestRecord) : SameRecord r r := ⟨rfl,rfl,rfl⟩

theorem rowGrows_refl (k : Key) (o : Row k) : RowGrows db next k o o := by
  cases k with
  | task id => exact fun t ht => ⟨t,ht,sameTask_refl t⟩
  | patchArtifact id => exact fun a ha => ⟨a,ha,samePatch_refl a⟩
  | patchReview id => exact Or.inl rfl
  | patchApproval id => exact Or.inl rfl
  | pullRequest id => exact ⟨fun r hr => ⟨r,hr,sameRecord_refl r⟩,fun r hr hn => by cases hr.symm.trans hn⟩
  | githubCalls id => exact fun cs c hcs hc => Or.inl ⟨cs,hcs,hc⟩
  | localTestRun id => exact fun h => Or.inl h
  | _ => trivial

theorem Acceptable.same {artifact artifact' : PatchArtifact} {task task' : Task}
    (h : Acceptable artifact task) (ha : SamePatch artifact artifact') (ht : SameTask task task') :
    Acceptable artifact' task' :=
  ⟨ha.diffText ▸ h.diffText,ha.filesChanged ▸ h.filesChanged,
    ha.filesChanged ▸ ht.allowedPaths ▸ h.allowed⟩

theorem Grows.review (h : Grows db db' next) {i : Id} {v : PatchReview}
    (hv : db (.patchReview i) = some v) : db' (.patchReview i) = some v := by
  rcases h (.patchReview i) with hs | ⟨hn,_⟩
  · exact hs.trans hv
  · cases hv.symm.trans hn

theorem Grows.approval (h : Grows db db' next) {i : Id} {a : PatchApproval}
    (ha : db (.patchApproval i) = some a) : db' (.patchApproval i) = some a := by
  rcases h (.patchApproval i) with hs | ⟨hn,_⟩
  · exact hs.trans ha
  · cases ha.symm.trans hn

theorem RecordOk.grow {i : Id} {r r' : PullRequestRecord} {a : PatchApproval} (h : RecordOk db i r a)
    (hg : Grows db db' next) (hr : SameRecord r r') : RecordOk db' i r' a := by
  refine ⟨?_,h.id,hr.taskId ▸ h.taskId,hr.workspaceId ▸ h.workspaceId⟩
  rw [hr.patchArtifactId]
  exact hg.approval h.row

theorem ApprovalOk.grow {i : Id} {a : PatchApproval} {v : PatchReview} (h : ApprovalOk db i a v)
    (hg : Grows db db' next) : ApprovalOk db' i a v := ⟨hg.review h.row,h.id,h.verdict,h.taskId⟩

theorem ReviewOk.grow {i : Id} {v : PatchReview} {a : PatchArtifact} {t : Task} (h : ReviewOk db i v a t)
    (hg : Grows db db' next) : ∃ a' t', ReviewOk db' i v a' t' := by
  obtain ⟨a',ha,hsa⟩ := hg (.patchArtifact i) a h.artifactRow
  obtain ⟨t',ht,hst⟩ := hg (.task v.taskId) t h.taskRow
  exact ⟨a',t',ha,hsa.taskId.trans h.taskId,ht,fun hv => (h.acceptable hv).same hsa hst⟩

theorem CallOk.grow {i : Id} {c : PullRequestCall} {r : PullRequestRecord} {a : PatchArtifact}
    (h : CallOk db i c r a) (hg : Grows db db' next) : ∃ r' a', CallOk db' i c r' a' := by
  obtain ⟨r',hr,hsr⟩ := (hg (.pullRequest i)).1 r h.recordRow
  obtain ⟨a',ha,hsa⟩ := hg (.patchArtifact r.patchArtifactId) a h.artifactRow
  exact ⟨r',a',hr,hsr.patchArtifactId.symm ▸ ha,h.diffText.trans hsa.diffText.symm⟩

theorem Chain.grow (h : Chain db next) (hg : Grows db db' next) : Chain db' next := by
  refine ⟨fun i r' hr' => ?_,fun i a ha => ?_,fun i v hv => ?_,fun i cs c hcs hc => ?_,fun i r hr => ?_⟩
  · obtain ⟨hold,hnew⟩ := hg (.pullRequest i)
    cases hr : db (.pullRequest i) with
    | none =>
      obtain ⟨a,ha⟩ := hnew r' hr' hr
      exact ⟨a,ha.grow hg (sameRecord_refl r')⟩
    | some r =>
      obtain ⟨r'',hr'',hs⟩ := hold r hr
      cases hr'.symm.trans hr''
      obtain ⟨a,ha⟩ := h.records i r hr
      exact ⟨a,ha.grow hg hs⟩
  · rcases hg (.patchApproval i) with hs | ⟨_,a',ha',v,hv⟩
    · obtain ⟨v,hv⟩ := h.approvals i a (hs.symm.trans ha)
      exact ⟨v,hv.grow hg⟩
    · cases ha.symm.trans ha'
      exact ⟨v,hv.grow hg⟩
  · rcases hg (.patchReview i) with hs | ⟨_,v',hv',a,t,hok⟩
    · obtain ⟨a,t,hok⟩ := h.reviews i v (hs.symm.trans hv)
      exact hok.grow hg
    · cases hv.symm.trans hv'
      exact hok.grow hg
  · rcases hg (.githubCalls i) cs c hcs hc with ⟨cs',hcs',hc'⟩ | ⟨r,a,hok⟩
    · obtain ⟨r,a,hok⟩ := h.calls i cs' c hcs' hc'
      exact hok.grow hg
    · exact hok.grow hg
  · rcases hg (.localTestRun i) (by simp [hr]) with hold | hlt
    · obtain ⟨r',hr'⟩ := Option.ne_none_iff_exists'.mp hold
      exact h.testRuns i r' hr'
    · exact hlt

theorem latest_congr (h : ∀ i, db' (.localTestRun i) = db (.localTestRun i)) (next : ℕ) (a : Id) :
    latestTestRunIn db' next a = latestTestRunIn db next a := by
  simp only [latestTestRunIn,testRunsOf,h]

theorem latest_bump (h : Chain db next) (a : Id) :
    latestTestRunIn db (next+1) a = latestTestRunIn db next a := by
  have hnone : db (.localTestRun next) = none := by
    by_contra hne
    obtain ⟨r,hr⟩ := Option.ne_none_iff_exists'.mp hne
    exact Nat.lt_irrefl next (h.testRuns next r hr)
  simp [latestTestRunIn,testRunsOf,List.range_succ,hnone]

theorem Checked.grow {i : Id} {v : PatchReview} (h : Checked db next i v) (hg : Grows db db' next)
    (ht : ∀ j, db' (.localTestRun j) = db (.localTestRun j)) : Checked db' next i v := by
  obtain ⟨a,t,hok,htests⟩ := h
  obtain ⟨a',t',hok'⟩ := hok.grow hg
  exact ⟨a',t',hok',by rwa [latest_congr ht]⟩

end growing

theorem approved_acceptable {reviewId : Id} {artifact : PatchArtifact} {task : Task}
    {latest : Option (Id × LocalTestRun)} {createdAt : Time}
    (h : (patchReviewOf reviewId artifact task latest createdAt).verdict = .approved) :
    Acceptable artifact task ∧ ∃ testRunId testRun, latest = some (testRunId,testRun) ∧
      testRun.status = "passed" := by
  have hissues : deterministicReviewIssues task artifact latest = [] := by
    by_contra hne
    simp [patchReviewOf,hne] at h
  simp only [deterministicReviewIssues,List.append_eq_nil_iff] at hissues
  obtain ⟨⟨hdiff,hpaths⟩,htests⟩ := hissues
  refine ⟨⟨?_,?_,?_⟩,?_⟩
  · unfold diffIssues at hdiff
    split at hdiff
    · cases hdiff
    · rename_i hblank
      simpa using hblank
  · intro hnil
    simp [pathIssues,hnil] at hpaths
  · unfold pathIssues at hpaths
    split at hpaths
    · cases hpaths
    · cases he : ensureChangedFilesAllowed artifact.filesChanged task.allowedPaths with
      | error message => simp [he] at hpaths
      | ok u => rfl
  · cases latest with
    | none => cases htests
    | some found =>
      obtain ⟨testRunId,testRun⟩ := found
      refine ⟨testRunId,testRun,rfl,?_⟩
      by_contra hne
      simp [testIssues,hne] at htests

-- What the session knows of the rows is what it sees.
structure Known (x : Knowledge) (db : Db) (next : ℕ) : Prop where
  task : ∀ id t, x.task = some (id,t) → db (.task id) = some t
  artifact : ∀ id a, x.artifact = some (id,a) → db (.patchArtifact id) = some a
  tests : ∀ id latest, x.tests = some (id,latest) → latest = latestTestRunIn db next id
  review : ∀ id v, x.review = some (id,v) → db (.patchReview id) = some v
  approval : ∀ id a, x.approval = some (id,a) → db (.patchApproval id) = some a
  record : ∀ id r, x.record = some (id,r) → db (.pullRequest id) = some r

def Knowledge.uses (x : Knowledge) : Key → Prop
  | .task id => x.task.map Prod.fst = some id
  | .patchArtifact id => x.artifact.map Prod.fst = some id
  | .localTestRun _ => x.tests ≠ none
  | .patchReview id => x.review.map Prod.fst = some id
  | .patchApproval id => x.approval.map Prod.fst = some id
  | .pullRequest id => x.record.map Prod.fst = some id
  | _ => False

theorem Knowledge.uses.tracked {x : Knowledge} {k : Key} (h : x.uses k) : k.isTracked = true := by
  cases k <;> first | rfl | cases h

structure PublishSession (x : Knowledge) (p : Pending Row) (w : World) : Prop where
  done : Chain w.db w.next
  view : Chain (p.view w.db) w.next
  known : Known x (p.view w.db) w.next
  numbered : ∀ n, x.numbered = some n → n < w.next
  kept : ∀ i v, w.db (.patchReview i) = some v → p.view w.db (.patchReview i) = some v
  created : ∀ i v, p.view w.db (.patchReview i) = some v → w.db (.patchReview i) = none →
    x.reviewed = true ∧ Checked (p.view w.db) w.next i v

section sessions

variable {x y : Knowledge} {p : Pending Row} {w : World} {db db' : Db} {next : ℕ}

theorem Known.congr (h : Known x db next) (hs : ∀ k, x.uses k → db' k = db k) : Known x db' next where
  task id t ht := (hs (.task id) (by simp [Knowledge.uses,ht])).trans (h.task id t ht)
  artifact id a ha := (hs (.patchArtifact id) (by simp [Knowledge.uses,ha])).trans (h.artifact id a ha)
  tests id latest hl := by
    rw [latest_congr fun i => hs (.localTestRun i) (by simp [Knowledge.uses,hl])]
    exact h.tests id latest hl
  review id v hv := (hs (.patchReview id) (by simp [Knowledge.uses,hv])).trans (h.review id v hv)
  approval id a ha := (hs (.patchApproval id) (by simp [Knowledge.uses,ha])).trans (h.approval id a ha)
  record id r hr := (hs (.pullRequest id) (by simp [Knowledge.uses,hr])).trans (h.record id r hr)

theorem Known.put (h : Known x (p.view w.db) next) {k : Key} (l v : Row k) (hk : ¬ x.uses k) :
    Known x ((p.put k l v).view w.db) next :=
  h.congr fun _ hk' => Pending.view_put_ne p l v w.db fun he => hk (he ▸ hk')

-- A row that is inserted was not known before.
theorem Known.unused (h : Known x db next) {k : Key} (hk : db k = none)
    (ht : ∀ id, k = .localTestRun id → x.tests = none) : ¬ x.uses k := by
  intro hu
  cases k with
  | task id =>
    obtain ⟨⟨_,t⟩,he,rfl⟩ := Option.map_eq_some_iff.mp hu
    cases hk.symm.trans (h.task _ t he)
  | patchArtifact id =>
    obtain ⟨⟨_,a⟩,he,rfl⟩ := Option.map_eq_some_iff.mp hu
    cases hk.symm.trans (h.artifact _ a he)
  | localTestRun id => exact hu (ht id rfl)
  | patchReview id =>
    obtain ⟨⟨_,v⟩,he,rfl⟩ := Option.map_eq_some_iff.mp hu
    cases hk.symm.trans (h.review _ v he)
  | patchApproval id =>
    obtain ⟨⟨_,a⟩,he,rfl⟩ := Option.map_eq_some_iff.mp hu
    cases hk.symm.trans (h.approval _ a he)
  | pullRequest id =>
    obtain ⟨⟨_,r⟩,he,rfl⟩ := Option.map_eq_some_iff.mp hu
    cases hk.symm.trans (h.record _ r he)
  | _ => exact hu

theorem PublishSession.put (h : PublishSession x p w) {k : Key} (l v : Row k)
    (hg : RowGrows (p.view w.db) w.next k (p.view w.db k) v)
    (hy : Known y ((p.put k l v).view w.db) w.next) (hn : ∀ n, y.numbered = some n → n < w.next)
    (hr : x.reviewed = true → y.reviewed = true ∧ ∀ i, Key.localTestRun i ≠ k)
    (hc : ∀ i u, (p.put k l v).view w.db (.patchReview i) = some u →
      p.view w.db (.patchReview i) = none →
      y.reviewed = true ∧ Checked ((p.put k l v).view w.db) w.next i u) :
    PublishSession y (p.put k l v) w := by
  have hgrows : Grows (p.view w.db) ((p.put k l v).view w.db) w.next := by
    intro k'
    by_cases e : k' = k
    · subst e
      rw [Pending.view_put_self]
      exact hg
    · rw [Pending.view_put_ne p l v w.db e]
      exact rowGrows_refl k' _
  refine ⟨h.done,h.view.grow hgrows,hy,hn,fun i u hu => hgrows.review (h.kept i u hu),fun i u hu hnone => ?_⟩
  cases hold : p.view w.db (.patchReview i) with
  | none => exact hc i u hu hold
  | some u' =>
    cases hu.symm.trans (hgrows.review hold)
    obtain ⟨hx,hchecked⟩ := h.created i u hold hnone
    obtain ⟨hreviewed,htests⟩ := hr hx
    exact ⟨hreviewed,hchecked.grow hgrows fun j => Pending.view_put_ne p l v w.db (htests j)⟩

-- No review is written.
theorem PublishSession.write (h : PublishSession x p w) {k : Key} (l v : Row k)
    (hg : RowGrows (p.view w.db) w.next k (p.view w.db k) v) (hk : ∀ i, Key.patchReview i ≠ k)
    (hy : Known y ((p.put k l v).view w.db) w.next) (hn : ∀ n, y.numbered = some n → n < w.next)
    (hr : x.reviewed = true → y.reviewed = true ∧ ∀ i, Key.localTestRun i ≠ k) :
    PublishSession y (p.put k l v) w :=
  h.put l v hg hy hn hr fun i u hu hnone => by
    rw [Pending.view_put_ne p l v w.db (hk i)] at hu
    cases hnone.symm.trans hu

theorem PublishSession.bump (h : PublishSession x p w) : PublishSession x p w.bump where
  done := { h.done with testRuns := fun i r hr => Nat.lt_succ_of_lt (h.done.testRuns i r hr) }
  view := { h.view with testRuns := fun i r hr => Nat.lt_succ_of_lt (h.view.testRuns i r hr) }
  known := { h.known with tests := fun id latest hl =>
    (h.known.tests id latest hl).trans (latest_bump h.view id).symm }
  numbered n hn := Nat.lt_succ_of_lt (h.numbered n hn)
  kept := h.kept
  created i v hv hn := by
    obtain ⟨hx,a,t,hok,htests⟩ := h.created i v hv hn
    exact ⟨hx,a,t,hok,fun hverdict => by
      simpa only [World.bump,latest_bump h.view] using htests hverdict⟩

theorem PublishSession.learn (h : PublishSession x p w) (hl : Learns (p.view w.db) w.next x y) :
    PublishSession y p w := by
  have hk := h.known
  cases hl with
  | task id row hrow ho ha =>
    exact ⟨h.done,h.view,{ hk with task := fun _ _ he => by cases he; exact hrow },h.numbered,h.kept,h.created⟩
  | artifact id row hrow =>
    exact ⟨h.done,h.view,{ hk with artifact := fun _ _ he => by cases he; exact hrow },h.numbered,h.kept,
      h.created⟩
  | tests id =>
    exact ⟨h.done,h.view,{ hk with tests := fun _ _ he => by cases he; rfl },h.numbered,h.kept,h.created⟩
  | review id row hrow =>
    exact ⟨h.done,h.view,{ hk with review := fun _ _ he => by cases he; exact hrow },h.numbered,h.kept,
      h.created⟩
  | approval id row hrow =>
    exact ⟨h.done,h.view,{ hk with approval := fun _ _ he => by cases he; exact hrow },h.numbered,h.kept,
      h.created⟩

theorem Chain.session (h : Chain w.db w.next) (hk : Known x w.db w.next)
    (hn : ∀ n, x.numbered = some n → n < w.next) : PublishSession x Pending.empty w where
  done := h
  view := h
  known := hk
  numbered := hn
  kept _ _ hv := hv
  created i v hv hnone := by cases hnone.symm.trans hv

theorem known_nothing {reviewed : Bool} : Known { reviewed := reviewed } db next := by
  constructor <;> intro _ _ he <;> cases he

-- A row that no session keeps track of.
theorem PublishSession.untracked (h : PublishSession x p w) {k : Key} (l v : Row k)
    (hk : k.isTracked = false) : PublishSession x (p.put k l v) w := by
  refine h.write l v ?_ ?_ (h.known.put l v ?_) h.numbered fun hx => ⟨hx,?_⟩
  · cases k <;> trivial
  · rintro i rfl
    cases hk
  · exact fun hu => by cases hk.symm.trans hu.tracked
  · rintro i rfl
    cases hk

theorem PublishSession.insertReview (h : PublishSession x p w) {patchArtifactId : Id}
    {artifact : PatchArtifact} {task : Task} {latest : Option (Id × LocalTestRun)} (id : Id)
    (createdAt : Time) (l : Option PatchReview) (ha : x.artifact = some (patchArtifactId,artifact))
    (ht : x.task = some (artifact.taskId,task)) (hl : x.tests = some (patchArtifactId,latest))
    (hg : p.view w.db (.patchReview patchArtifactId) = none) :
    PublishSession { x with reviewed := true } (p.put (.patchReview patchArtifactId) l
      (some (patchReviewOf id artifact task latest createdAt))) w := by
  let row : PatchReview := patchReviewOf id artifact task latest createdAt
  have hok : ReviewOk (p.view w.db) patchArtifactId row artifact task :=
    ⟨h.known.artifact _ _ ha,rfl,h.known.task _ _ ht,fun hv => (approved_acceptable hv).1⟩
  have hk := h.known.put (k := .patchReview patchArtifactId) l (some row)
    (h.known.unused hg fun _ he => by cases he)
  have other {k : Key} (he : k ≠ .patchReview patchArtifactId) :
      (p.put (.patchReview patchArtifactId) l (some row)).view w.db k = p.view w.db k :=
    Pending.view_put_ne p l (some row) w.db he
  refine h.put (k := .patchReview patchArtifactId) l _ (Or.inr ⟨hg,_,rfl,artifact,task,hok⟩)
    ⟨hk.task,hk.artifact,hk.tests,hk.review,hk.approval,hk.record⟩ h.numbered
    (fun _ => ⟨rfl,fun i he => by cases he⟩) fun i u hu hnone => ⟨rfl,?_⟩
  have hsame : i = patchArtifactId := by
    by_contra e
    cases hnone.symm.trans ((other (by simpa using e)).symm.trans hu)
  subst hsame
  rw [Pending.view_put_self] at hu
  cases hu
  refine ⟨artifact,task,⟨(other (by simp)).trans hok.artifactRow,rfl,(other (by simp)).trans hok.taskRow,
    hok.acceptable⟩,fun hv => ?_⟩
  obtain ⟨testRunId,testRun,hrun,hpassed⟩ := (approved_acceptable hv).2
  refine ⟨testRunId,testRun,?_,hpassed,by simp [patchReviewOf,hrun]⟩
  rw [latest_congr fun j => other (by simp),← h.known.tests _ _ hl,hrun]

theorem PublishSession.insertApproval (h : PublishSession x p w) {patchArtifactId : Id}
    {artifact : PatchArtifact} {review : PatchReview} (id : Id) (task : Task) (createdAt : Time)
    (l : Option PatchApproval) (ha : x.artifact = some (patchArtifactId,artifact))
    (hr : x.review = some (patchArtifactId,review)) (hv : review.verdict = .approved)
    (hg : p.view w.db (.patchApproval patchArtifactId) = none) :
    PublishSession { x with approving := true } (p.put (.patchApproval patchArtifactId) l
      (some (patchApprovalOf id artifact task review createdAt))) w := by
  have hrow := h.known.review _ _ hr
  obtain ⟨a,t,hok⟩ := h.view.reviews patchArtifactId review hrow
  have hsame : a = artifact := Option.some.inj (hok.artifactRow.symm.trans (h.known.artifact _ _ ha))
  have happroval : ApprovalOk (p.view w.db) patchArtifactId
      (patchApprovalOf id artifact task review createdAt) review :=
    ⟨hrow,rfl,hv,hsame ▸ hok.taskId⟩
  have hk := h.known.put (k := .patchApproval patchArtifactId) l
    (some (patchApprovalOf id artifact task review createdAt))
    (h.known.unused hg fun _ he => by cases he)
  exact h.write (k := .patchApproval patchArtifactId) l _ (Or.inr ⟨hg,_,rfl,review,happroval⟩)
    (fun i he => by cases he) ⟨hk.task,hk.artifact,hk.tests,hk.review,hk.approval,hk.record⟩ h.numbered
    fun hx => ⟨hx,fun i he => by cases he⟩

theorem PublishSession.insertRecord (h : PublishSession x p w) {approval : PatchApproval}
    {row : PullRequestRecord} (l : Option PullRequestRecord)
    (ha : x.approval = some (row.patchArtifactId,approval)) (ht : row.taskId = approval.taskId)
    (hw : row.workspaceId = approval.workspaceId) (hg : p.view w.db (.pullRequest approval.id) = none) :
    PublishSession { x with record := some (approval.id,row) }
      (p.put (.pullRequest approval.id) l (some row)) w := by
  have hrow : RecordOk (p.view w.db) approval.id row approval :=
    ⟨h.known.approval _ _ ha,rfl,ht.symm,hw.symm⟩
  have hk := h.known.put (k := .pullRequest approval.id) l (some row)
    (h.known.unused hg fun _ he => by cases he)
  refine h.write (k := .pullRequest approval.id) l _
    ⟨fun r hr => (by cases hg.symm.trans hr),fun r' hr' _ => ?_⟩ (fun i he => by cases he)
    { hk with record := fun i r hr => ?_ } h.numbered fun hx => ⟨hx,fun i he => by cases he⟩
  · cases hr'
    exact ⟨approval,hrow⟩
  · cases hr
    simp

theorem PublishSession.recordCall (h : PublishSession x p w) {approvalId : Id}
    {record : PullRequestRecord} {artifact : PatchArtifact} (call : PullRequestCall)
    (l : Option (List PullRequestCall)) (hr : x.record = some (approvalId,record))
    (ha : x.artifact = some (record.patchArtifactId,artifact)) (hd : call.diffText = artifact.diffText) :
    PublishSession x (p.put (.githubCalls approvalId) l
      (some (call :: (p.view w.db (.githubCalls approvalId)).getD []))) w := by
  have hcall : CallOk (p.view w.db) approvalId call record artifact :=
    ⟨h.known.record _ _ hr,h.known.artifact _ _ ha,hd⟩
  refine h.write (k := .githubCalls approvalId) l _ (fun cs c hcs hc => ?_) (fun i he => by cases he)
    (h.known.put _ _ fun hu => hu) h.numbered fun hx => ⟨hx,fun i he => by cases he⟩
  cases hcs
  rcases List.mem_cons.mp hc with rfl | hc
  · exact Or.inr ⟨record,artifact,hcall⟩
  · cases hold : p.view w.db (.githubCalls approvalId) with
    | none => simp [hold] at hc
    | some cs => exact Or.inl ⟨cs,rfl,by simpa [hold] using hc⟩

theorem PublishSession.update {k : Key} {g : Row k → Bool} {s : Row k → Row k}
    (h : PublishSession x p w) (hP : WorkUpdate x k g s y) (hg : g (p.view w.db k) = true) :
    PublishSession y (p.put k (w.db k) (s (p.view w.db k))) w := by
  have hk := h.known
  cases hP with
  | untracked k g s hu => exact h.untracked _ _ hu
  | newTask id row hs =>
    have hnone : p.view w.db (.task id) = none := by simpa using hg
    exact h.write _ _ (fun t ht => by cases hnone.symm.trans ht) (fun i he => by cases he)
      (hk.put _ _ (hk.unused hnone fun _ he => by cases he)) h.numbered fun hx => ⟨hx,fun i he => by cases he⟩
  | note id row hs =>
    exact h.write _ _ trivial (fun i he => by cases he) (hk.put _ _ fun hu => hu) h.numbered
      fun hx => ⟨hx,fun i he => by cases he⟩
  | @transition taskId task fromStatus id createdAt ht ho hn =>
    have hk' := hk.put (k := .taskEvent id) (w.db (.taskEvent id))
      (some ⟨taskId,.taskTransitioned fromStatus task.status,createdAt⟩) (fun hu => hu)
    exact h.write _ _ trivial (fun i he => by cases he)
      ⟨hk'.task,hk'.artifact,hk'.tests,hk'.review,hk'.approval,hk'.record⟩ (fun n hn => by cases hn)
      fun hx => ⟨hx,fun i he => by cases he⟩
  | artifact id row =>
    have hnone : p.view w.db (.patchArtifact id) = none := by simpa using hg
    exact h.write _ _ (fun a ha => by cases hnone.symm.trans ha) (fun i he => by cases he)
      (hk.put _ _ (hk.unused hnone fun _ he => by cases he)) h.numbered fun hx => ⟨hx,fun i he => by cases he⟩
  | testRun id row hr hn =>
    have hx : Known { x with tests := none } (p.view w.db) w.next :=
      { hk with tests := fun _ _ he => by cases he }
    exact h.write _ _ (fun _ => Or.inr (h.numbered id hn)) (fun i he => by cases he)
      (hx.put _ _ fun hu => hu rfl) h.numbered fun hx => by cases hr.symm.trans hx
  | review id createdAt ha ht hl => exact h.insertReview id createdAt _ ha ht hl (by simpa using hg)
  | approval id createdAt ha ht hs hr hv ho hn =>
    exact h.insertApproval id _ createdAt _ ha hr hv (by simpa using hg)
  | record row ha ht hw => exact h.insertRecord _ ha ht hw (by simpa using hg)
  | call call hr ha hd => exact h.recordCall call _ hr ha hd

theorem mergeRow_some {k : Key} (l n : k.Entity) (o : Row k) :
    mergeRow k (some l) (some n) o = o.map (mergeEntity k l n) := by
  cases o <;> rfl

theorem SamePatch.merged {id : Id} {l n : PatchArtifact} (h : SamePatch l n) (c : PatchArtifact) :
    SamePatch c (mergeEntity (.patchArtifact id) l n c) := by
  constructor <;> simp [mergeEntity,PatchArtifact.flush,pick,h.workspaceId,h.taskId,h.localRunId,
    h.filesChanged,h.diffText]

theorem SameRecord.merged {id : Id} {l n : PullRequestRecord} (h : SameRecord l n)
    (c : PullRequestRecord) : SameRecord c (mergeEntity (.pullRequest id) l n c) := by
  constructor <;> simp [mergeEntity,PullRequestRecord.flush,pick,h.workspaceId,h.taskId,
    h.patchArtifactId]

theorem PublishSession.flushTask (h : PublishSession x p w) {id : Id} {l n : Task}
    (ht : x.task = some (id,l)) (hk : SameTask l n) (owed : Option TaskStatus) (approving : Bool) :
    PublishSession { x with task := some (id,n), owed := owed, approving := approving }
      (p.put (.task id) (some l)
        (mergeRow (.task id) (some l) (some n) (p.view w.db (.task id)))) w := by
  have hrow : p.view w.db (.task id) = some l := h.known.task id l ht
  rw [hrow,mergeRow_loaded]
  have hx : Known { x with task := none } (p.view w.db) w.next :=
    { h.known with task := fun _ _ he => by cases he }
  have hy := hx.put (k := .task id) (some l) (some n) fun hu => by cases hu
  refine h.write (k := .task id) (some l) (some n) (fun t he => ?_) (fun i he => by cases he)
    ⟨fun T t he => ?_,hy.artifact,hy.tests,hy.review,hy.approval,hy.record⟩ h.numbered
    fun hx => ⟨hx,fun i he => by cases he⟩
  · cases hrow.symm.trans he
    exact ⟨n,rfl,hk⟩
  · cases he
    exact Pending.view_put_self p (.task id) (some l) (some n) w.db

theorem PublishSession.flush {k : Key} {l n : Row k} (h : PublishSession x p w)
    (hP : WorkFlush x k l n y) :
    PublishSession y (p.put k l (mergeRow k l n (p.view w.db k))) w := by
  cases hP with
  | untracked k l n hu => exact h.untracked _ _ hu
  | task id ht hs hk => exact h.flushTask ht hk x.owed x.approving
  | move id ht ho hs hk ha => exact h.flushTask ht hk _ false
  | artifact id hs =>
    have hx : Known { x with artifact := none } (p.view w.db) w.next :=
      { h.known with artifact := fun _ _ he => by cases he }
    refine h.write _ _ (fun a ha => ?_) (fun i he => by cases he) (hx.put _ _ fun hu => by cases hu)
      h.numbered fun hx => ⟨hx,fun i he => by cases he⟩
    rw [mergeRow_some,ha]
    exact ⟨_,rfl,hs.merged a⟩
  | testRun id l n hr =>
    have hx : Known { x with tests := none } (p.view w.db) w.next :=
      { h.known with tests := fun _ _ he => by cases he }
    refine h.write _ _ (fun hn => Or.inl fun ho => hn ?_) (fun i he => by cases he)
      (hx.put _ _ fun hu => hu rfl) h.numbered fun hx => by cases hr.symm.trans hx
    rw [mergeRow_some,ho]
    rfl
  | record id hs =>
    have hx : Known { x with record := none } (p.view w.db) w.next :=
      { h.known with record := fun _ _ he => by cases he }
    refine h.write _ _ ⟨fun r hr => ?_,fun r' hr' ho => ?_⟩ (fun i he => by cases he)
      (hx.put _ _ fun hu => by cases hu) h.numbered fun hx => ⟨hx,fun i he => by cases he⟩
    · rw [mergeRow_some,hr]
      exact ⟨_,rfl,hs.merged r⟩
    · rw [mergeRow_some,ho] at hr'
      cases hr'

theorem publish_stable : Stable alone workCourse PublishSession where
  env h he := (env_alone.mp he) ▸ h
  bump h := h.bump
  learn h hl := h.learn hl
  miss _ hy := hy.elim
  skip _ hy := hy.elim
  number h hn := by
    subst hn
    have hb := h.bump
    refine ⟨hb.done,hb.view,⟨hb.known.task,hb.known.artifact,hb.known.tests,hb.known.review,
      hb.known.approval,hb.known.record⟩,fun n hn => ?_,hb.kept,hb.created⟩
    cases hn
    exact Nat.lt_succ_self _
  update h hP hg := h.update hP hg
  flush h hP _ _ := h.flush hP
  commit h hP := by
    obtain ⟨_,_,rfl⟩ := hP
    exact ⟨trivial,h.view.session h.known h.numbered⟩
  rollback h hP := by
    subst hP
    exact h.done.session known_nothing fun n hn => by cases hn

end sessions

section histories

variable [Digest] {w₀ w : World}

omit [Digest] in
theorem Untouched.chain (h : Untouched w₀) : Chain w₀.db w₀.next := by
  refine ⟨fun i r hr => ?_,fun i a ha => ?_,fun i v hv => ?_,fun i cs c hcs _ => ?_,fun i r hr => ?_⟩
  · cases (h.rows (.pullRequest i) rfl).symm.trans hr
  · cases (h.rows (.patchApproval i) rfl).symm.trans ha
  · cases (h.rows (.patchReview i) rfl).symm.trans hv
  · cases (h.rows (.githubCalls i) rfl).symm.trans hcs
  · cases (h.rows (.localTestRun i) rfl).symm.trans hr

theorem Chain.op (h : Chain w.db w.next) (clock : ℕ → Time) (o : WorkflowOp) :
    (∃ y, PublishSession y (exec clock o.program ⟨w,Pending.empty,0⟩).2.pend
      (exec clock o.program ⟨w,Pending.empty,0⟩).2.world) ∧
      ∀ c ∈ commits clock o.program ⟨w,Pending.empty,0⟩, CommitOf workCourse PublishSession c :=
  exec_writes publish_stable clock o.program o.walks (h.session known_nothing fun _ hn => by cases hn)

theorem Reached.chain (hw : Untouched w₀) (h : Reached w₀ w) : Chain w.db w.next := by
  induction h with
  | start => exact hw.chain
  | op clock o _ ih =>
    obtain ⟨⟨y,hy⟩,_⟩ := ih.op clock o
    exact hy.done

theorem Committed.session {c : World × World} (hw : Untouched w₀) (h : Committed w₀ c) :
    CommitOf workCourse PublishSession c := by
  obtain ⟨w,clock,o,hr,hc⟩ := h
  exact ((hr.chain hw).op clock o).2 c hc

theorem Visible.chain (hw : Untouched w₀) (h : Visible w₀ w) : Chain w.db w.next := by
  rcases h with h | ⟨c,hc,rfl⟩
  · exact h.chain hw
  · obtain ⟨x,y,p,hs,_,he⟩ := hc.session hw
    rw [he]
    exact hs.view

-- A review that is there now was checked in the commit that brought it.
theorem Visible.checked (hw : Untouched w₀) (h : Visible w₀ w) {patchArtifactId : Id}
    {review : PatchReview} (hv : w.db (.patchReview patchArtifactId) = some review) :
    ∃ c, Committed w₀ c ∧ c.1.db (.patchReview patchArtifactId) = none ∧
      c.2.db (.patchReview patchArtifactId) = some review ∧
      Checked c.2.db c.2.next patchArtifactId review := by
  have h₀ : ¬ w₀.db (.patchReview patchArtifactId) = some review := by
    rw [hw.rows (.patchReview patchArtifactId) rfl]
    simp
  obtain ⟨c,hc,hbefore,hafter⟩ :=
    h.becomes (B := fun db => db (.patchReview patchArtifactId) = some review) h₀ hv
  obtain ⟨x,y,p,hs,_,he⟩ := hc.session hw
  have hview : p.view c.1.db (.patchReview patchArtifactId) = some review := by
    rw [he] at hafter
    exact hafter
  have hnone : c.1.db (.patchReview patchArtifactId) = none := by
    cases hold : c.1.db (.patchReview patchArtifactId) with
    | none => rfl
    | some other =>
      cases hview.symm.trans (hs.kept patchArtifactId other hold)
      exact (hbefore hold).elim
  refine ⟨c,hc,hnone,hafter,?_⟩
  rw [he]
  exact (hs.created patchArtifactId review hview hnone).2

theorem publication_chain (hw : Untouched w₀) (h : Visible w₀ w) {approvalId : Id}
    {record : PullRequestRecord} (hr : w.db (.pullRequest approvalId) = some record) :
    ∃ approval review, RecordOk w.db approvalId record approval ∧
      ApprovalOk w.db record.patchArtifactId approval review ∧
      ∃ c, Committed w₀ c ∧ c.1.db (.patchReview record.patchArtifactId) = none ∧
        c.2.db (.patchReview record.patchArtifactId) = some review ∧
        ∃ artifact task testRunId testRun,
          c.2.db (.patchArtifact record.patchArtifactId) = some artifact ∧
          c.2.db (.task record.taskId) = some task ∧ Acceptable artifact task ∧
          latestTestRunIn c.2.db c.2.next record.patchArtifactId = some (testRunId,testRun) ∧
          testRun.status = "passed" ∧ review.testRunId = some testRunId := by
  obtain ⟨approval,happroval⟩ := (h.chain hw).records approvalId record hr
  obtain ⟨review,hreview⟩ := (h.chain hw).approvals _ approval happroval.row
  obtain ⟨c,hc,hnone,hsome,artifact,task,hok,htests⟩ := h.checked hw hreview.row
  obtain ⟨testRunId,testRun,hlatest,hpassed,hlink⟩ := htests hreview.verdict
  have htask : review.taskId = record.taskId := hreview.taskId.symm.trans happroval.taskId
  exact ⟨approval,review,happroval,hreview,c,hc,hnone,hsome,artifact,task,testRunId,testRun,hok.artifactRow,
    htask ▸ hok.taskRow,hok.acceptable hreview.verdict,hlatest,hpassed,hlink⟩

end histories

theorem publication_chain_published :
    let _ := plainDigest
    ∃ record approval review,
      (playWork workWorld (timed (published sampleResult))).db (.pullRequest 25) = some record ∧
      RecordOk (playWork workWorld (timed (published sampleResult))).db 25 record approval ∧
      ApprovalOk (playWork workWorld (timed (published sampleResult))).db record.patchArtifactId approval
        review := by
  intro _
  have hreached : Reached workWorld (playWork workWorld (timed (published sampleResult))) :=
    Reached.start.plays _
  have hrecord : ((playWork workWorld (timed (published sampleResult))).db (.pullRequest 25)).isSome :=
    by decide +kernel
  generalize playWork workWorld (timed (published sampleResult)) = w at hreached hrecord ⊢
  obtain ⟨record,hr⟩ := Option.isSome_iff_exists.mp hrecord
  obtain ⟨approval,review,happroval,hreview,_⟩ :=
    publication_chain work_untouched (Or.inl hreached) hr
  exact ⟨record,approval,review,hr,happroval,hreview⟩

end AiScdc
