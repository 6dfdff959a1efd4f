import AiScdc.CloudRunner.LeaseFencing

namespace AiScdc
open Transaction RunPhase

-- A cancel that was asked for stays asked for, and a run keeps its local run.
structure KeepsCancel (c c' : CloudRun) : Prop where
  localRunId : c'.localRunId = c.localRunId
  cancelRequested : c.cancelRequested = true → c'.cancelRequested = true

def cancelKept (v u : Option CloudRun) : Prop :=
  (v = none → u = none) ∧ ∀ c, v = some c → ∃ c', u = some c' ∧ KeepsCancel c c'

def readyKept (v u : Option CloudRun) : Prop :=
  ∀ c', u = some c' → c'.status = .patchReady → ∃ c, v = some c ∧ c.status = .patchReady

-- What a transaction that holds no finalisation does to a row.
def calm : ∀ k : Key, Row k → Row k → Row k → Prop
  | .cloudRun _, _, v, u => cancelKept v u ∧ readyKept v u
  | .patchArtifact _, _, _, _ => False
  | .task _, _, _, _ => False
  | _, _, _, _ => True

def finalizing (id localRunId : Id) : ∀ k : Key, Row k → Row k → Row k → Prop
  | .cloudRun id', _, v, u => id' = id ∧ cancelKept v u
  | .patchArtifact _, _, _, u => ∃ artifact, u = some artifact ∧ artifact.localRunId = localRunId
  | _, _, _, _ => True

def linkedTo (localRunId : Id) (db : Db) (id : Id) : Prop :=
  ∃ c, db (.cloudRun id) = some c ∧ c.localRunId = some localRunId

def uncancelled (localRunId : Id) (db : Db) (id : Id) : Prop :=
  ∃ c, db (.cloudRun id) = some c ∧ c.localRunId = some localRunId ∧ c.cancelRequested = false

def Finalizes (id localRunId : Id) (p : Pending Row) (db : Db) : Prop :=
  uncancelled localRunId db id ∧ p (.cloudRun id) ≠ none ∧ RowWise (finalizing id localRunId) p db

def cancelState : RunPhase → Pending Row → Db → Prop
  | .busy, p, db => RowWise calm p db
  | .clean, p, db => RowWise calm p db ∧ ∀ id, p (.cloudRun id) = none
  | .read id localRunId, p, db =>
      (RowWise calm p db ∧ ∀ id, p (.cloudRun id) = none) ∧ linkedTo localRunId db id
  | .held id localRunId, p, db => Finalizes id localRunId p db

def cancelDiscipline : Discipline Row where
  rely w w' := ∀ id localRunId, linkedTo localRunId w.db id → linkedTo localRunId w'.db id
  guar p db := RowWise calm p db ∨ ∃ id localRunId, Finalizes id localRunId p db
  fresh _ _ _ _ := True

theorem cancelState.calm {x : RunPhase} {p : Pending Row} {db : Db} (h : cancelState x p db)
    (hx : x.unheld) : RowWise calm p db := by
  cases x with
  | busy => exact h
  | clean => exact h.1
  | read id l => exact h.1.1
  | held id l => exact hx.elim

theorem keepsCancel_refl (c : CloudRun) : KeepsCancel c c := ⟨rfl,id⟩

theorem KeepsCancel.trans {a b c : CloudRun} (h : KeepsCancel a b) (h' : KeepsCancel b c) :
    KeepsCancel a c :=
  ⟨h'.localRunId.trans h.localRunId,fun hc => h'.cancelRequested (h.cancelRequested hc)⟩

theorem cancelKept_refl (v : Option CloudRun) : cancelKept v v :=
  ⟨id,fun c hc => ⟨c,hc,keepsCancel_refl c⟩⟩

theorem readyKept_refl (v : Option CloudRun) : readyKept v v := fun c hc hs => ⟨c,hc,hs⟩

theorem cancelKept.map {v u : Option CloudRun} (h : cancelKept v u) {values : CloudRun → CloudRun}
    (hv : ∀ c, KeepsCancel c (values c)) : cancelKept v (u.map values) := by
  refine ⟨fun hn => by rw [h.1 hn]; rfl,fun c hc => ?_⟩
  obtain ⟨c',rfl,hk⟩ := h.2 c hc
  exact ⟨values c',rfl,hk.trans (hv c')⟩

theorem readyKept.map {v u : Option CloudRun} (h : readyKept v u) {values : CloudRun → CloudRun}
    (hv : ∀ c, (values c).status = .patchReady → c.status = .patchReady) :
    readyKept v (u.map values) := by
  intro c' hc' hs
  obtain ⟨c,rfl,rfl⟩ := Option.map_eq_some_iff.mp hc'
  exact h c rfl (hv c hs)

theorem runWhere_keepsCancel {e : RunEdit} {guard : CloudRun → Bool} {values : CloudRun → CloudRun}
    (h : RunWhere e guard values) (c : CloudRun) : KeepsCancel c (values c) := by
  cases h <;> first | exact ⟨rfl,id⟩ | exact ⟨rfl,fun _ => rfl⟩

theorem runWhere_ready {e : RunEdit} {guard : CloudRun → Bool} {values : CloudRun → CloudRun}
    (h : RunWhere e guard values) (c : CloudRun) (hs : (values c).status = .patchReady) :
    c.status = .patchReady := by
  cases h <;> first | exact hs | cases hs

theorem pick_flag {l n c : Bool} (h : n = l ∨ n = true) (hc : c = true) : pick l n c = true := by
  cases l <;> cases n <;> cases c <;> simp_all [pick]

theorem runFlush_keepsCancel {e : RunEdit} {l n : CloudRun} (h : RunFlush e l n) (he : e ≠ .link)
    (c : CloudRun) : KeepsCancel c (l.flush n c) := by
  have hkeep (hk : KeepsRun l n) : KeepsCancel c (l.flush n c) := by
    refine ⟨by simp [CloudRun.flush,hk.localRunId],fun hc => ?_⟩
    exact pick_flag hk.cancelRequested hc
  cases h with
  | keep hk => exact hkeep hk
  | still hk hs => exact hkeep hk
  | link headBranch localRunId now => exact (he rfl).elim
  | requeue now => exact ⟨by simp [CloudRun.flush,CloudRun.requeued],fun hc => pick_flag (Or.inl rfl) hc⟩

theorem runFlush_ready {e : RunEdit} {l n : CloudRun} (h : RunFlush e l n) (c : CloudRun)
    (hs : (l.flush n c).status = .patchReady) : c.status = .patchReady := by
  have hpick (hn : n.status = .patchReady → l.status = .patchReady) : c.status = .patchReady := by
    have hs' : pick l.status n.status c.status = .patchReady := hs
    unfold pick at hs'
    split at hs'
    · exact hs'
    · rename_i hne
      exact (hne (hs'.trans (hn hs').symm)).elim
  cases h with
  | keep hk => exact hpick hk.status
  | still hk hs => exact hpick hk.status
  | link headBranch localRunId now => exact hpick id
  | requeue now => exact hpick fun h => by cases h

theorem result_keepsCancel (l c : CloudRun) (status : ResultStatus) (artifactId : Option Id)
    (results : List CommandResult) (reason : Option String) (now : Time) :
    KeepsCancel c (l.flush (l.resultRecorded status artifactId results reason now) c) :=
  ⟨by simp [CloudRun.flush,CloudRun.resultRecorded],fun hc => pick_flag (Or.inl rfl) hc⟩

theorem mergeRow_map {id : Id} {l n : CloudRun} (u : Option CloudRun) :
    mergeRow (.cloudRun id) (some l) (some n) u = u.map fun c => l.flush n c := by
  cases u <;> rfl

section stable

variable {id localRunId : Id} {p : Pending Row} {db : Db}

theorem calm_plain {k : Key} (h : k.isPlain) (l v u : Row k) : calm k l v u := by
  cases k with
  | cloudRun id => cases h
  | patchArtifact id => cases h
  | task id => cases h
  | _ => trivial

theorem finalizing_plain {k : Key} (h : k.isPlain) (l v u : Row k) :
    finalizing id localRunId k l v u := by
  cases k with
  | cloudRun id => cases h
  | patchArtifact id => cases h
  | _ => trivial

theorem calm_view (h : RowWise calm p db) (id : Id) :
    cancelKept (db (.cloudRun id)) (p.view db (.cloudRun id)) ∧
      readyKept (db (.cloudRun id)) (p.view db (.cloudRun id)) := by
  cases hp : p (.cloudRun id) with
  | none =>
    rw [Pending.view_of_none hp]
    exact ⟨cancelKept_refl _,readyKept_refl _⟩
  | some wr =>
    rw [Pending.view_of_some hp]
    exact h (.cloudRun id) wr hp

theorem finalizing_view {id' : Id} (h : RowWise (finalizing id localRunId) p db) :
    cancelKept (db (.cloudRun id')) (p.view db (.cloudRun id')) := by
  cases hp : p (.cloudRun id') with
  | none =>
    rw [Pending.view_of_none hp]
    exact cancelKept_refl _
  | some wr =>
    rw [Pending.view_of_some hp]
    exact (h (.cloudRun id') wr hp).2

theorem calm_edit (h : RowWise calm p db) (l : Option CloudRun) {values : CloudRun → CloudRun}
    (hk : ∀ c, KeepsCancel c (values c))
    (hr : ∀ c, (values c).status = .patchReady → c.status = .patchReady) :
    RowWise calm (p.put (.cloudRun id) l ((p.view db (.cloudRun id)).map values)) db := by
  obtain ⟨hc,hs⟩ := calm_view h id
  exact h.put ⟨hc.map hk,hs.map hr⟩

theorem finalizing_edit (h : Finalizes id localRunId p db) (l : Option CloudRun)
    {values : CloudRun → CloudRun} (hk : ∀ c, KeepsCancel c (values c)) :
    Finalizes id localRunId (p.put (.cloudRun id) l ((p.view db (.cloudRun id)).map values)) db := by
  refine ⟨h.1,?_,h.2.2.put ⟨rfl,(finalizing_view h.2.2).map hk⟩⟩
  simp [Pending.put_self]

theorem finalizing_other (h : Finalizes id localRunId p db) {k : Key} (hne : k ≠ .cloudRun id)
    {l v : Row k} (hk : ∀ l', finalizing id localRunId k l' (db k) v) :
    Finalizes id localRunId (p.put k l v) db := by
  refine ⟨h.1,?_,h.2.2.put (hk _)⟩
  rw [Pending.put_ne p l v hne.symm]
  exact h.2.1

theorem no_runs_put (h : ∀ id, p (.cloudRun id) = none) {k : Key} (hk : k.isPlain) (l v : Row k) :
    ∀ id, p.put k l v (.cloudRun id) = none := by
  intro id
  rw [Pending.put_ne p l v (plain_ne hk id).symm]
  exact h id

-- A plain write leaves what every phase knows.
theorem cancelState.plain {x : RunPhase} (h : cancelState x p db) {k : Key} (hk : k.isPlain)
    (l v : Row k) : cancelState x (p.put k l v) db := by
  cases x with
  | busy => exact RowWise.put h (calm_plain hk _ _ _)
  | clean => exact ⟨h.1.put (calm_plain hk _ _ _),no_runs_put h.2 hk l v⟩
  | read id localRunId =>
    exact ⟨⟨h.1.1.put (calm_plain hk _ _ _),no_runs_put h.1.2 hk l v⟩,h.2⟩
  | held id localRunId => exact finalizing_other h (plain_ne hk id) fun l' => finalizing_plain hk l' _ _

theorem finalizing_of_calm (h : RowWise calm p db) (hruns : ∀ id, p (.cloudRun id) = none) :
    RowWise (finalizing id localRunId) p db := by
  intro k wr hwr
  cases k with
  | cloudRun id' => simp [hruns id'] at hwr
  | patchArtifact artifactId => exact (h _ wr hwr).elim
  | _ => trivial

theorem claimed_finalizes (h : RowWise calm p db) (hruns : ∀ id, p (.cloudRun id) = none)
    (hl : linkedTo localRunId db id) {guard : CloudRun → Bool}
    (hguard : ∀ c, guard c = true → c.cancelRequested = false) {values : CloudRun → CloudRun}
    (hk : ∀ c, KeepsCancel c (values c)) (hg : (p.view db (.cloudRun id)).any guard = true) :
    Finalizes id localRunId
      (p.put (.cloudRun id) (db (.cloudRun id)) ((p.view db (.cloudRun id)).map values)) db := by
  have hfree : RowWise (finalizing id localRunId) p db := finalizing_of_calm h hruns
  refine ⟨?_,by simp [Pending.put_self],hfree.put ⟨rfl,(finalizing_view hfree).map hk⟩⟩
  obtain ⟨c,hc,hlink⟩ := hl
  rw [Pending.view_of_none (hruns id)] at hg
  simp only [hc,Option.any_some] at hg
  exact ⟨c,hc,hlink,hguard c hg⟩

variable {A : Id → RunEdit → Prop}

theorem cancelState.update (hA : ∀ id e, A id e → e ≠ .create) {x y : RunPhase} {k : Key}
    {g : Row k → Bool} {s : Row k → Row k} (h : cancelState x p db) (hP : RunUpdate A x k g s y)
    (hg : g (p.view db k) = true) : cancelState y (p.put k (db k) (s (p.view db k))) db := by
  cases hP with
  | plain k g s hk => exact h.plain hk _ _
  | create id row hx hc h₀ => exact (hA id _ hc rfl).elim
  | edit id hx hw he =>
    exact calm_edit (h.calm hx) _ (runWhere_keepsCancel hw) (runWhere_ready hw)
  | finalization id localRunId now he =>
    refine claimed_finalizes h.1.1 h.1.2 h.2 (fun c hc => ?_) (fun c => ⟨rfl,fun hc => hc⟩) hg
    simp only [Bool.and_eq_true,Bool.not_eq_true'] at hc
    exact hc.2
  | artifact id localRunId artifactId row hrow =>
    exact finalizing_other h (fun e => by cases e) fun _ => ⟨row,rfl,hrow⟩

theorem cancelState.flush (hA : ∀ id e, A id e → e ≠ .link) {x y : RunPhase} {k : Key} {l n : Row k}
    (h : cancelState x p db) (hP : RunWrite A x k l n y) :
    cancelState y (p.put k l (mergeRow k l n (p.view db k))) db := by
  cases hP with
  | plain k l n hk => exact h.plain hk _ _
  | edit id hx hw he =>
    rw [mergeRow_map]
    exact calm_edit (h.calm hx) _ (runFlush_keepsCancel hw (hA id _ he)) (runFlush_ready hw)
  | heldEdit id localRunId hk he =>
    rw [mergeRow_map]
    exact finalizing_edit h _ (runFlush_keepsCancel (.keep hk) (by simp))
  | result id localRunId status artifactId results reason now he =>
    rw [mergeRow_map]
    exact finalizing_edit h _ fun c => result_keepsCancel _ c status artifactId results reason now
  | task id localRunId taskId l n => exact finalizing_other h (fun e => by cases e) fun _ => trivial

theorem cancel_stable (hA : ∀ id e, A id e → e ≠ .create ∧ e ≠ .link) :
    Stable cancelDiscipline (runCourse A) fun x p w => cancelState x p w.db where
  env := by
    intro x p w w' h he
    cases x with
    | busy => exact RowWise.env h he
    | clean => exact ⟨h.1.env he,h.2⟩
    | read id localRunId => exact ⟨⟨h.1.1.env he,h.1.2⟩,he.1 id localRunId h.2⟩
    | held id localRunId =>
      obtain ⟨⟨c,hc,hl,hr⟩,hp,hrows⟩ := h
      exact ⟨⟨c,(he.2 _ hp).trans hc,hl,hr⟩,hp,hrows.env he⟩
  bump h := h
  learn := by
    rintro x y p w h ⟨id,localRunId,c,rfl,rfl,hc,hl⟩
    refine ⟨h,c,?_,hl⟩
    rwa [Pending.view_of_none (h.2 id)] at hc
  miss _ hy := hy.elim
  skip _ hy := hy.elim
  number _ hy := hy.elim
  update h hP hg := h.update (fun id e he => (hA id e he).1) hP hg
  flush h hP _ _ := h.flush (fun id e he => (hA id e he).2) hP
  commit := by
    rintro x y p w h rfl
    refine ⟨?_,rowWise_empty,fun _ => rfl⟩
    cases x with
    | held id localRunId => exact Or.inr ⟨id,localRunId,h⟩
    | busy => exact Or.inl h
    | clean => exact Or.inl h.1
    | read id localRunId => exact Or.inl h.1.1
  rollback := by
    rintro x y p w _ rfl
    exact ⟨rowWise_empty,fun _ => rfl⟩

end stable

def OwnLocalRuns (db : Db) : Prop :=
  ∀ id id' localRunId, linkedTo localRunId db id → linkedTo localRunId db id' → id = id'

theorem History.ownLocalRuns [Digest] {hist : List Event} {w : World} (h : History anyOp hist w) :
    OwnLocalRuns w.db := by
  rintro id id' localRunId ⟨c,hc,hl⟩ ⟨c',hc',hl'⟩
  exact h.sound.linked.localRuns id id' c c' hc hc' (hl.trans hl'.symm)

section commits

variable {p : Pending Row} {db : Db}

theorem commit_cancelKept (h : cancelDiscipline.guar p db) (id : Id) :
    cancelKept (db (.cloudRun id)) (p.view db (.cloudRun id)) := by
  rcases h with h | ⟨id',localRunId,h⟩
  · exact (calm_view h id).1
  · exact finalizing_view h.2.2

theorem commit_linked (h : cancelDiscipline.guar p db) {id localRunId : Id}
    (hl : linkedTo localRunId db id) : linkedTo localRunId (p.view db) id := by
  obtain ⟨c,hc,hid⟩ := hl
  obtain ⟨c',hc',hk⟩ := (commit_cancelKept h id).2 c hc
  exact ⟨c',hc',hk.localRunId.trans hid⟩

theorem commit_unlinked (h : cancelDiscipline.guar p db) {id localRunId : Id}
    (hl : linkedTo localRunId (p.view db) id) : linkedTo localRunId db id := by
  obtain ⟨c',hc',hid⟩ := hl
  cases hc : db (.cloudRun id) with
  | none => rw [(commit_cancelKept h id).1 hc] at hc'; cases hc'
  | some c =>
    obtain ⟨c₁,hc₁,hk⟩ := (commit_cancelKept h id).2 c hc
    obtain rfl := Option.some.inj (hc₁.symm.trans hc')
    exact ⟨c,rfl.trans hc,hk.localRunId.symm.trans hid⟩

theorem commit_own (h : cancelDiscipline.guar p db) (ho : OwnLocalRuns db) :
    OwnLocalRuns (p.view db) :=
  fun id id' localRunId hl hl' => ho id id' localRunId (commit_unlinked h hl) (commit_unlinked h hl')

-- The cancel of a run was acknowledged before it was patch-ready.
def Asked (localRunId : Option Id) (db : Db) (id : Id) : Prop :=
  ∃ c, db (.cloudRun id) = some c ∧ c.cancelRequested = true ∧ c.status ≠ .patchReady ∧
    c.localRunId = localRunId

theorem other_finalized {id id' localRunId : Id} {link : Option Id} (ha : Asked link db id)
    (h : Finalizes id' localRunId p db) : id ≠ id' := by
  rintro rfl
  obtain ⟨c,hc,hreq,_⟩ := ha
  obtain ⟨c',hc',_,hnot⟩ := h.1
  obtain rfl := Option.some.inj (hc.symm.trans hc')
  rw [hreq] at hnot
  cases hnot

theorem commit_asked (h : cancelDiscipline.guar p db) {id : Id} {link : Option Id}
    (ha : Asked link db id) : Asked link (p.view db) id := by
  obtain ⟨c,hc,hreq,hs,hl⟩ := ha
  obtain ⟨c',hc',hk⟩ := (commit_cancelKept h id).2 c hc
  refine ⟨c',hc',hk.cancelRequested hreq,fun hready => ?_,hk.localRunId.trans hl⟩
  rcases h with h | ⟨id',localRunId,h⟩
  · obtain ⟨c₀,hc₀,hs₀⟩ := (calm_view h id).2 c' hc' hready
    obtain rfl := Option.some.inj (hc.symm.trans hc₀)
    exact hs hs₀
  · have hne := other_finalized ⟨c,hc,hreq,hs,hl⟩ h
    cases hp : p (.cloudRun id) with
    | none =>
      rw [Pending.view_of_none hp,hc] at hc'
      obtain rfl := Option.some.inj hc'
      exact hs hready
    | some wr => exact hne (h.2.2 (.cloudRun id) wr hp).1

theorem commit_no_patch (h : cancelDiscipline.guar p db) (ho : OwnLocalRuns db) {id : Id}
    {link : Option Id} (ha : Asked link db id) {artifactId : Id} {artifact : PatchArtifact}
    (hb : db (.patchArtifact artifactId) = none)
    (hn : p.view db (.patchArtifact artifactId) = some artifact) : some artifact.localRunId ≠ link := by
  intro heq
  cases hp : p (.patchArtifact artifactId) with
  | none =>
    rw [Pending.view_of_none hp,hb] at hn
    cases hn
  | some wr =>
    rcases h with h | ⟨id',localRunId,h⟩
    · exact h _ wr hp
    · obtain ⟨a,hval,hla⟩ := h.2.2 _ wr hp
      rw [Pending.view_of_some hp,hval] at hn
      obtain rfl := Option.some.inj hn
      have hne := other_finalized ha h
      obtain ⟨c,hc,hl,_⟩ := h.1
      obtain ⟨c',hc',_,_,hl'⟩ := ha
      exact hne (ho id id' localRunId ⟨c',hc',hl'.trans (heq.symm.trans (by rw [hla]))⟩
        ⟨c,hc,hl⟩)

theorem commit_no_ready (h : cancelDiscipline.guar p db) {id : Id} {link : Option Id}
    (ha : Asked link db id) (hp : p (.cloudRun id) ≠ none) (taskId : Id) : p (.task taskId) = none := by
  cases ht : p (.task taskId) with
  | none => rfl
  | some wr =>
    rcases h with h | ⟨id',localRunId,h⟩
    · exact (h _ wr ht).elim
    · cases hr : p (.cloudRun id) with
      | none => exact (hp hr).elim
      | some run => exact (other_finalized ha h (h.2.2 (.cloudRun id) run hr).1).elim

end commits

section races

variable {ι : Type} [Fintype ι] [DecidableEq ι]

def CloudRunnerOp.isEnqueue : CloudRunnerOp → Bool
  | .enqueue _ _ _ _ => true
  | _ => false

theorem edits_linked {o : CloudRunnerOp} (ho : o.isEnqueue = false) (id : Id) (e : RunEdit)
    (h : o.edits id e) : e ≠ .create ∧ e ≠ .link := by
  cases o with
  | enqueue => cases ho
  | claim req => rcases h with rfl | rfl <;> simp
  | requeue provider limit => rcases h with rfl | rfl <;> simp
  | cancel ctx id => rcases h with rfl | rfl <;> simp
  | process ctx id workerId replies => rcases h with rfl | rfl <;> simp
  | heartbeat => obtain rfl : e = .keep := h; simp
  | complete => obtain rfl : e = .keep := h; simp

def cancelling [Digest] (ops : ι → CloudRunnerOp) (hops : ∀ i, (ops i).isEnqueue = false) :
    Protocol ι Row Time Exn where
  prog i := (ops i).program
  disc _ := cancelDiscipline
  inv _ := True
  cond _ _ := True
  rely_refl _ _ _ _ h := h
  rely_trans _ _ _ _ hab hbc id localRunId h := hbc id localRunId (hab id localRunId h)
  rely_bump _ _ _ _ h := h
  inv_commit _ _ _ _ _ := trivial
  fresh _ _ _ _ _ _ _ _ := trivial
  compat _ _ _ _ _ _ _ _ hg _ _ _ _ hl := commit_linked hg hl
  safe i _ _ := (cancel_stable (edits_linked (hops i))).safe (writes_program (ops i))
    ⟨rowWise_empty,fun _ => rfl⟩

structure AcknowledgesCancel (o : CloudRunnerOp) (c : Commit ι Row) (id : Id) (cloudRun : CloudRun) :
    Prop where
  cancels : ∃ ctx, o = .cancel ctx id
  running : ∃ r, c.before (.cloudRun id) = some r ∧ r.status = .running
  after : c.after (.cloudRun id) = some cloudRun
  status : cloudRun.status = .running
  requested : cloudRun.cancelRequested = true

-- What a commit leaves alone once the cancel of a run has been acknowledged.
structure RespectsCancel (c : Commit ι Row) (id : Id) (localRunId : Option Id) : Prop where
  status : ∃ r, c.after (.cloudRun id) = some r ∧ r.status ≠ .patchReady
  patch : ∀ artifactId artifact, c.before (.patchArtifact artifactId) = none →
    c.after (.patchArtifact artifactId) = some artifact → some artifact.localRunId ≠ localRunId
  task : c.pend (.cloudRun id) ≠ none → ∀ taskId, c.after (.task taskId) = c.before (.task taskId)

omit [Fintype ι] [DecidableEq ι] in
theorem respects_chain {tr : List (Commit ι Row)}
    (hg : ∀ c ∈ tr, cancelDiscipline.guar c.pend c.before) {db db' : Db} (hc : chained db tr db')
    (ho : OwnLocalRuns db) {id : Id} {link : Option Id} (ha : Asked link db id) :
    (∀ d ∈ tr, RespectsCancel d id link) ∧ Asked link db' id := by
  induction tr generalizing db with
  | nil =>
    have heq : db' = db := hc
    exact ⟨fun _ hd => (List.not_mem_nil hd).elim,heq ▸ ha⟩
  | cons c cs ih =>
    obtain ⟨rfl,hc⟩ := hc
    have hgc := hg c (by simp)
    have hafter := commit_asked hgc ha
    obtain ⟨hrest,hend⟩ := ih (fun d hd => hg d (by simp [hd])) hc (commit_own hgc ho) hafter
    refine ⟨fun d hd => ?_,hend⟩
    rcases List.mem_cons.mp hd with rfl | hd
    · obtain ⟨r,hr,_,hs,_⟩ := hafter
      refine ⟨⟨r,hr,hs⟩,fun _ _ hb hn => commit_no_patch hgc ho ha hb hn,fun hp taskId => ?_⟩
      exact Pending.view_of_none (commit_no_ready hgc ha hp taskId) _
    · exact hrest d hd

omit [Fintype ι] [DecidableEq ι] in
theorem own_chain {tr : List (Commit ι Row)} (hg : ∀ c ∈ tr, cancelDiscipline.guar c.pend c.before)
    {db db' : Db} (hc : chained db tr db') (ho : OwnLocalRuns db) : OwnLocalRuns db' := by
  induction tr generalizing db with
  | nil =>
    have heq : db' = db := hc
    exact heq ▸ ho
  | cons c cs ih =>
    obtain ⟨rfl,hc⟩ := hc
    exact ih (fun d hd => hg d (by simp [hd])) hc (commit_own (hg c (by simp)) ho)

theorem acknowledged_cancel_wins [Digest] {ops : ι → CloudRunnerOp}
    (hops : ∀ i, (ops i).isEnqueue = false) {w : World} (hw : OwnLocalRuns w.db)
    {tr : List (Commit ι Row)} {g : Global ι Row Time Exn}
    (h : Run (fun _ _ => True) (Global.init w fun i => (ops i).program) tr g)
    {tr₁ tr₂ : List (Commit ι Row)} {c : Commit ι Row} {id : Id} {cloudRun : CloudRun}
    (heq : tr = tr₁ ++ c :: tr₂) (hc : AcknowledgesCancel (ops c.thread) c id cloudRun) :
    (∀ d ∈ tr₂, RespectsCancel d id cloudRun.localRunId) ∧
      ∃ r, g.world.db (.cloudRun id) = some r ∧ r.status ≠ .patchReady := by
  have hg : ∀ d ∈ tr, cancelDiscipline.guar d.pend d.before :=
    fun d hd => (((cancelling ops hops).sound trivial h).2 d hd).1
  have hchain := h.chained
  rw [heq,chained_append] at hchain
  obtain ⟨m,hpre,rfl,hpost⟩ := hchain
  have hm := own_chain (fun d hd => hg d (by simp [heq,hd])) hpre hw
  have ha : Asked cloudRun.localRunId c.after id :=
    ⟨cloudRun,hc.after,hc.requested,by simp [hc.status],rfl⟩
  obtain ⟨hall,r,hr,_,hs,_⟩ := respects_chain (fun d hd => hg d (by simp [heq,hd])) hpost
    (commit_own (hg c (by simp [heq])) hm) ha
  exact ⟨hall,r,hr,hs⟩

end races

def cancelAndComplete : Bool → CloudRunnerOp
  | false => .cancel sampleOwner 7
  | true => sampleComplete 10

def cancelInside : List (Bool × Time) :=
  List.replicate 8 (true,2) ++ List.replicate 40 (false,3) ++ List.replicate 200 (true,4)

-- Each commit with the status it found on the run, and the status and cancel flag it left.
def flagsOver (tr : List (Commit Bool Row)) : List (Bool × Option RunStatus × Option (RunStatus × Bool)) :=
  tr.map fun c => (c.thread,(c.before (.cloudRun 7)).map CloudRun.status,
    (c.after (.cloudRun 7)).map fun r => (r.status,r.cancelRequested))

theorem leased_ownLocalRuns : OwnLocalRuns leasedWorld.db :=
  let _ := plainDigest
  History.ownLocalRuns (sample_history (follows_any sampleWorld (sampleLeased 4)))

theorem acknowledged_cancel_wins_completing :
    let _ := plainDigest
    ∃ tr g, Run (fun _ _ => True)
        (Global.init leasedWorld fun i => (cancelAndComplete i).program) tr g ∧
      (flagsOver tr).getLast? = some (true,some .running,some (.cancelled,true)) ∧
      ∃ r, g.world.db (.cloudRun 7) = some r ∧ r.status ≠ .patchReady := by
  intro _
  have hplay : (((Global.init leasedWorld fun i => (cancelAndComplete i).program).play
      (fun _ _ => true) cancelInside).map fun r => flagsOver r.1) =
      some [(true,some .running,some (.running,false)),(false,some .running,some (.running,true)),
        (false,some .running,some (.running,true)),(true,some .running,some (.cancelled,true))] := by
    decide +kernel
  obtain ⟨⟨tr,g⟩,hp,heq⟩ := Option.map_eq_some_iff.mp hplay
  have hrun := (Global.play_run (.refl) _ hp).weaken (B := fun _ _ => True) fun _ _ _ => trivial
  rw [List.nil_append] at hrun
  have hflags : flagsOver tr = _ := heq
  obtain ⟨c₁,c₂,c₃,c₄,rfl⟩ : ∃ c₁ c₂ c₃ c₄, tr = [c₁,c₂,c₃,c₄] := by
    have hlen : tr.length = 4 := by simpa [flagsOver] using congrArg List.length hflags
    match tr, hlen with
    | [c₁,c₂,c₃,c₄], _ => exact ⟨c₁,c₂,c₃,c₄,rfl⟩
  simp only [flagsOver,List.map_cons,List.map_nil,List.cons.injEq,Prod.mk.injEq,
    Option.map_eq_some_iff] at hflags
  obtain ⟨_,⟨hthread,⟨before,hbefore,hs⟩,⟨after,hafter,hs',hreq⟩⟩,_⟩ := hflags
  have hack : AcknowledgesCancel (cancelAndComplete c₂.thread) c₂ 7 after :=
    ⟨⟨sampleOwner,by rw [hthread]; rfl⟩,⟨before,hbefore,hs⟩,hafter,hs',hreq⟩
  refine ⟨_,g,hrun,?_,(acknowledged_cancel_wins ?_ leased_ownLocalRuns hrun
    (show [c₁,c₂,c₃,c₄] = [c₁] ++ c₂ :: [c₃,c₄] from rfl) hack).2⟩
  · rw [show flagsOver [c₁,c₂,c₃,c₄] = _ from heq]
    rfl
  · intro i
    cases i <;> rfl

end AiScdc
