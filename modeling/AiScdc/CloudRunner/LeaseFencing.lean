import AiScdc.CloudRunner.TerminalRace

namespace AiScdc
open Transaction RunPhase

def leasedBy (leaseId : Id) (db : Db) (id : Id) : Prop :=
  ∃ c, db (.cloudRun id) = some c ∧ c.leaseId = some leaseId

section resolve

variable {leaseId : Id}

-- Until a completion has found its lease it writes nothing; then it knows the leased run.
def resolveCourse (leaseId : Id) : Course Row (Option Id) where
  learn x db _ y := x = none ∧ ∃ id, y = some id ∧ leasedBy leaseId db id
  number _ _ _ := False
  update _ _ _ _ _ := False
  flush _ _ _ _ _ := False
  commit x y := y = x
  rollback x y := y = x

theorem resolve_resets {Φ : Option Id → Prop} : Resets (resolveCourse leaseId) Φ :=
  ⟨fun x hx => ⟨x,hx,rfl⟩,fun x hx => ⟨x,hx,rfl⟩⟩

theorem writes_selectLease {view : ∀ _ : Id, CloudRun → Option (Id × CloudRun)}
    (hview : ∀ id c r, view id c = some r → r = (id,c) ∧ c.leaseId = some leaseId)
    {α : Type} {f : List (Id × CloudRun) → Op α} {Q : α → Option Id → Prop}
    {E : Exn → Option Id → Prop} (hnil : Writes (resolveCourse leaseId) none (f []) Q E)
    (hcons : ∀ id c rest, Writes (resolveCourse leaseId) (some id) (f ((id,c) :: rest)) Q E) :
    Writes (resolveCourse leaseId) none (selectWhere .cloudRun view >>= f) Q E := by
  refine Writes.bind fun db n => ?_
  cases h : (List.range n).filterMap fun i => (db (.cloudRun i)).bind (view i) with
  | nil =>
    refine ⟨none,Or.inl rfl,?_⟩
    simp only [Writes,h]
    exact hnil
  | cons entry rest =>
    obtain ⟨id,c⟩ := entry
    have hmem : (id,c) ∈ (List.range n).filterMap fun i => (db (.cloudRun i)).bind (view i) := by
      rw [h]
      exact List.mem_cons_self
    obtain ⟨i,_,hi⟩ := List.mem_filterMap.mp hmem
    obtain ⟨c',hc',hv⟩ := Option.bind_eq_some_iff.mp hi
    obtain ⟨heq,hl⟩ := hview i c' (id,c) hv
    cases heq
    refine ⟨some id,Or.inr ⟨rfl,id,rfl,c,hc',hl⟩,?_⟩
    simp only [Writes,h]
    exact hcons id c rest

theorem writes_resolve [Digest] (cred : LeaseCredentials) :
    Writes (resolveCourse cred.leaseId) none (resolveCloudRunCallbackLease cred)
      (fun r y => y = some r.1) fun _ _ => True := by
  have hverify (id : Id) (c : CloudRun) (b : Bool) := obeys_verifyToken
    (P := resolveCourse cred.leaseId) (Φ := fun y => y = some id) resolve_resets id c cred.workerId
    cred.callbackToken none b
  unfold resolveCloudRunCallbackLease
  split
  · refine (obeys_requirePresented (Φ := fun y => y = none) resolve_resets _).still (fun _ => ?_)
      fun _ => trivial
    refine writes_selectLease (fun id c r h => ?_) ?_ fun id c rest => ?_
    · split at h
      · cases h
        exact ⟨rfl,‹_›⟩
      · cases h
    · exact (gives_reject (Φ := fun y => y = none) (R := fun _ => False) resolve_resets _ _ none rfl).mono
        (fun _ _ h => h.1.elim) fun _ _ _ => trivial
    · refine (hverify id c true).still (fun _ => ?_) fun _ => trivial
      exact (obeys_ensureCurrent c cred.workerId).still (fun _ => rfl) fun _ => trivial
  · unfold getCurrentCloudRunLeaseOr409
    refine Writes.bind (writes_selectLease (fun id c r h => ?_) trivial fun id c rest => ?_)
    · split at h
      · cases h
        exact ⟨rfl,And.left ‹_›⟩
      · cases h
    · refine (obeys_ensureCurrent c cred.workerId).still (fun _ => ?_) fun _ => trivial
      exact (hverify id c false).still (fun _ => rfl) fun _ => trivial

end resolve

section fence

-- A completion that presents a lease relies on it being left where it is.
def fence (presented : Option Id) : Discipline Row where
  rely w w' := ∀ leaseId, presented = some leaseId →
    ∀ id, leasedBy leaseId w.db id → leasedBy leaseId w'.db id
  guar p db := ∀ leaseId, presented = some leaseId → ∀ id, p (.cloudRun id) ≠ none →
    leasedBy leaseId db id ∧ leasedBy leaseId (p.view db) id
  fresh _ _ _ _ := True

structure Fenced (leaseId id : Id) (p : Pending Row) (db : Db) : Prop where
  leased : leasedBy leaseId db id
  view : leasedBy leaseId (p.view db) id
  only : ∀ id', p (.cloudRun id') ≠ none → id' = id

variable {leaseId id : Id} {p : Pending Row} {db : Db}

theorem leasedBy_congr {db db' : Db} (h : db' (.cloudRun id) = db (.cloudRun id))
    (hl : leasedBy leaseId db id) : leasedBy leaseId db' id := by
  obtain ⟨c,hc,hid⟩ := hl
  exact ⟨c,h.trans hc,hid⟩

theorem Fenced.other (h : Fenced leaseId id p db) {k : Key} (hk : ∀ id', k ≠ .cloudRun id')
    (l v : Row k) : Fenced leaseId id (p.put k l v) db := by
  refine ⟨h.leased,leasedBy_congr (Pending.view_put_ne p l v db (hk id).symm) h.view,fun id' hp => ?_⟩
  rw [Pending.put_ne p l v (hk id').symm] at hp
  exact h.only id' hp

theorem Fenced.run (h : Fenced leaseId id p db) (l : Row (.cloudRun id)) {v : CloudRun}
    (hv : v.leaseId = some leaseId) : Fenced leaseId id (p.put (.cloudRun id) l (some v)) db := by
  refine ⟨h.leased,⟨v,Pending.view_put_self p (.cloudRun id) l (some v) db,hv⟩,fun id' hp => ?_⟩
  by_contra hne
  rw [Pending.put_ne p l (some v) (fun e => hne (Key.cloudRun.inj e))] at hp
  exact hne (h.only id' hp)

theorem plain_ne {k : Key} (h : k.isPlain) (id : Id) : k ≠ .cloudRun id := by
  rintro rfl
  cases h

theorem flush_leaseId {l n c : CloudRun} (h : n.leaseId = l.leaseId) :
    (l.flush n c).leaseId = c.leaseId := by simp [CloudRun.flush,h]

def onlyRun (id : Id) : Id → RunEdit → Prop := fun id' e => id' = id ∧ e = .keep

theorem Fenced.flush (h : Fenced leaseId id p db) {l n : CloudRun} (hn : n.leaseId = l.leaseId) :
    Fenced leaseId id (p.put (.cloudRun id) (some l)
      (mergeRow (.cloudRun id) (some l) (some n) (p.view db (.cloudRun id)))) db := by
  obtain ⟨c,hc,hid⟩ := h.view
  rw [hc]
  exact h.run _ ((flush_leaseId hn).trans hid)

theorem Fenced.update (h : Fenced leaseId id p db) {values : CloudRun → CloudRun}
    (hv : ∀ c, (values c).leaseId = c.leaseId) :
    Fenced leaseId id (p.put (.cloudRun id) (db (.cloudRun id))
      ((p.view db (.cloudRun id)).map values)) db := by
  obtain ⟨c,hc,hid⟩ := h.view
  rw [hc]
  exact h.run _ ((hv c).trans hid)

theorem fenced_stable : Stable (fence (some leaseId)) (runCourse (onlyRun id))
    fun _ p w => Fenced leaseId id p w.db where
  env := by
    intro _ p w w' h he
    have hkept := he.1 leaseId rfl
    refine ⟨hkept id h.leased,?_,h.only⟩
    cases hp : p (.cloudRun id) with
    | none => exact leasedBy_congr (Pending.view_of_none hp _) (hkept id h.leased)
    | some wr =>
      refine leasedBy_congr ?_ h.view
      rw [Pending.view_of_some hp,Pending.view_of_some hp]
  bump h := h
  learn h _ := h
  miss _ hy := hy.elim
  skip _ hy := hy.elim
  number h _ := h
  update := by
    intro x y p w k g s h hP hg
    cases hP with
    | plain k g s hk => exact h.other (plain_ne hk) _ _
    | create id' row hx hA h₀ => cases hA.2
    | edit id' hx hw hA =>
      obtain ⟨rfl,rfl⟩ := hA
      cases hw
    | finalization id' localRunId now hA =>
      obtain ⟨rfl,_⟩ := hA
      exact h.update fun _ => rfl
    | artifact id' localRunId artifactId row hrow => exact h.other (fun _ e => by cases e) _ _
  flush := by
    intro x y p w k l n h hP hne _
    cases hP with
    | plain k l n hk => exact h.other (plain_ne hk) _ _
    | edit id' hx hw hA =>
      obtain ⟨rfl,rfl⟩ := hA
      cases hw with
      | keep hk => exact h.flush hk.leaseId
    | heldEdit id' localRunId hk hA =>
      obtain ⟨rfl,_⟩ := hA
      exact h.flush hk.leaseId
    | result id' localRunId status artifactId results reason now hA =>
      obtain ⟨rfl,_⟩ := hA
      exact h.flush rfl
    | task id' localRunId taskId l n => exact h.other (fun _ e => by cases e) _ _
  commit := by
    intro x y p w h _
    refine ⟨fun leaseId' heq id' hp => ?_,⟨h.view,h.view,fun id' hp => (hp rfl).elim⟩⟩
    cases heq
    rw [h.only id' hp]
    exact ⟨h.leased,h.view⟩
  rollback h _ := ⟨h.leased,h.leased,fun _ hp => (hp rfl).elim⟩

theorem resolve_stable : Stable (fence (some leaseId)) (resolveCourse leaseId)
    fun x p w => p = Pending.empty ∧ ∀ id, x = some id → leasedBy leaseId w.db id where
  env h he := ⟨h.1,fun id hid => he.1 leaseId rfl id (h.2 id hid)⟩
  bump h := h
  learn := by
    rintro x y p w ⟨rfl,_⟩ ⟨_,id,rfl,hl⟩
    exact ⟨rfl,fun id' hid => by cases hid; exact hl⟩
  miss _ hy := hy.elim
  skip _ hy := hy.elim
  number _ hy := hy.elim
  update _ hP := hP.elim
  flush _ hP := hP.elim
  commit := by
    rintro x y p w ⟨rfl,h⟩ rfl
    exact ⟨fun _ _ _ hp => (hp rfl).elim,rfl,h⟩
  rollback := by
    rintro x y p w ⟨rfl,h⟩ rfl
    exact ⟨rfl,h⟩

theorem complete_fenced [Digest] (ctx : Option AuthContext) (cred : LeaseCredentials)
    (body : CloudRunExecutionResultCreate) (replies : CompletionReplies) (w : World) :
    wp (fence (some cred.leaseId)) (CloudRunnerOp.complete ctx cred body replies).program
      (fun _ _ _ => True) (fun _ _ _ => True) Pending.empty w := by
  have hresolve := wp_writes resolve_stable (resolveCloudRunCallbackLease cred) (writes_resolve cred)
    (p := Pending.empty) (w := w) ⟨rfl,fun id hid => by cases hid⟩
  have hrest (id : Id) (c : CloudRun) (w' : World) (hl : leasedBy cred.leaseId w'.db id) :=
    wp_writes fenced_stable (completeResolved ctx body replies id c)
      (obeys_completeResolved (A := onlyRun id) ⟨rfl,rfl⟩ ctx body replies c .clean trivial)
      (p := Pending.empty) (w := w') ⟨hl,hl,fun _ hp => (hp rfl).elim⟩
  simp only [CloudRunnerOp.program,discard,wp_monad_bind,complete_eq]
  refine wp_mono _ (fun r p w' h => ?_) (fun _ _ _ _ => trivial) hresolve
  obtain ⟨y,rfl,rfl,hl⟩ := h
  exact wp_mono _ (fun _ _ _ _ => trivial) (fun _ _ _ _ => trivial) (hrest r.1 r.2 w' (hl r.1 rfl))

end fence

section races

variable {ι : Type} [Fintype ι] [DecidableEq ι] [Digest]

def CloudRunnerOp.presented : CloudRunnerOp → Option Id
  | .complete _ cred _ _ => some cred.leaseId
  | _ => none

def commitsNext (m : Prog Row Time Exn Unit) : Bool :=
  match m with
  | .commit _ => true
  | _ => false

def underWay (t : Thread Row Time Exn) : Bool := t.started && !t.prog.finished

-- No commit takes a lease away that a completion under way has presented.
def leaseLeft (ops : ι → CloudRunnerOp) (g : Global ι Row Time Exn) (i : ι) : Prop :=
  commitsNext (g.thread i).prog → ∀ j, j ≠ i → underWay (g.thread j) →
    ∀ leaseId, (ops j).presented = some leaseId →
      ∀ id, leasedBy leaseId g.world.db id → leasedBy leaseId (g.view i) id

def fencing (ops : ι → CloudRunnerOp) : Protocol ι Row Time Exn where
  prog i := (ops i).program
  disc i := fence (ops i).presented
  inv _ := True
  cond := leaseLeft ops
  rely_refl _ _ _ _ _ h := h
  rely_trans _ _ _ _ hab hbc leaseId hl id h := hbc leaseId hl id (hab leaseId hl id h)
  rely_bump _ _ _ _ _ h := h
  inv_commit _ _ _ _ _ := trivial
  fresh _ _ _ _ _ _ _ _ := trivial
  compat g i j k hij hc _ hp _ hst hf := by
    intro leaseId hl id h
    exact hc (by rw [hp]; rfl) j (Ne.symm hij) (by simp [underWay,hst,hf]) leaseId hl id h
  safe i w _ := by
    cases hop : ops i with
    | complete ctx cred body replies => exact complete_fenced ctx cred body replies w
    | _ => exact wp_unguarded (fun _ _ _ hl => by cases hl) _ _ _

theorem outcome_from_current_lease {ops : ι → CloudRunnerOp} {w : World} {tr : List (Commit ι Row)}
    {g : Global ι Row Time Exn}
    (h : Run (leaseLeft ops) (Global.init w fun i => (ops i).program) tr g) :
    ∀ c ∈ tr, ∀ leaseId, (ops c.thread).presented = some leaseId →
      ∀ id, c.after (.cloudRun id) ≠ c.before (.cloudRun id) →
        ∃ cloudRun, c.before (.cloudRun id) = some cloudRun ∧ cloudRun.leaseId = some leaseId := by
  intro c hc leaseId hl id hne
  have hg := (((fencing ops).sound trivial h).2 c hc).1
  have hp : c.pend (.cloudRun id) ≠ none := by
    intro hp
    exact hne (Pending.view_of_none hp _)
  exact (hg leaseId hl id hp).1

end races

def runsAlone (g : Global Bool Row Time Exn) (i : Bool) : Bool := !underWay (g.thread !i)

theorem alone_left [Digest] {ops : Bool → CloudRunnerOp} (g : Global Bool Row Time Exn) (i : Bool)
    (h : runsAlone g i = true) : leaseLeft ops g i := by
  intro _ j hj hw
  have hji : j = !i := by
    cases i <;> cases j <;> simp_all
  subst hji
  simp [runsAlone,hw] at h

def outcomes (tr : List (Commit Bool Row)) : List (Bool × Option RunStatus × Option RunStatus) :=
  tr.map fun c => (c.thread,(c.before (.cloudRun 7)).map CloudRun.status,
    (c.after (.cloudRun 7)).map CloudRun.status)

theorem outcome_from_current_lease_serial :
    let _ := plainDigest
    ∃ tr g, Run (leaseLeft requeueAndComplete)
        (Global.init leasedWorld fun i => (requeueAndComplete i).program) tr g ∧
      ∃ c ∈ tr, (c.before (.cloudRun 7)).map CloudRun.status = some .running ∧
        (c.after (.cloudRun 7)).map CloudRun.status = some .patchReady ∧
        ∃ cloudRun, c.before (.cloudRun 7) = some cloudRun ∧ cloudRun.leaseId = some 10 := by
  intro _
  have hplay : (((Global.init leasedWorld fun i => (requeueAndComplete i).program).play
      runsAlone completeThenRequeue).map fun r => outcomes r.1) =
      some [(true,some .running,some .running),(true,some .running,some .patchReady),
        (false,some .patchReady,some .patchReady)] := by decide +kernel
  obtain ⟨⟨tr,g⟩,hp,heq⟩ := Option.map_eq_some_iff.mp hplay
  have hrun := (Global.play_run (.refl) _ hp).weaken (B := leaseLeft requeueAndComplete) alone_left
  rw [List.nil_append] at hrun
  have hmem : (true,some RunStatus.running,some RunStatus.patchReady) ∈ outcomes tr := by
    rw [show outcomes tr = _ from heq]
    simp
  obtain ⟨c,hc,hcut⟩ := List.mem_map.mp hmem
  simp only [Prod.mk.injEq] at hcut
  obtain ⟨hthread,hbefore,hafter⟩ := hcut
  refine ⟨tr,g,hrun,c,hc,hbefore,hafter,outcome_from_current_lease hrun c hc 10 ?_ 7 fun he => ?_⟩
  · rw [hthread]
    rfl
  · rw [he,hbefore] at hafter
    cases hafter

def staleCompletion : Fin 3 → CloudRunnerOp
  | 0 => sampleComplete 10
  | 1 => .requeue .localDb 10
  | 2 => .claim ⟨"other","docker",.localDb,none,none,none,none,60,false⟩

-- Each commit with the lease it found on the run and the status it left.
def leasesOver (tr : List (Commit (Fin 3) Row)) : List (Fin 3 × Option Id × Option RunStatus) :=
  tr.map fun c => (c.thread,(c.before (.cloudRun 7)).bind CloudRun.leaseId,
    (c.after (.cloudRun 7)).map CloudRun.status)

def staleSchedule : List (Fin 3 × Time) :=
  List.replicate 8 (0,2) ++ List.replicate 40 (1,100000000) ++ List.replicate 60 (2,100000001) ++
    List.replicate 200 (0,100000002)

def cancelledCompletion : Fin 3 → CloudRunnerOp
  | 0 => sampleComplete 10
  | 1 => .cancel none 7
  | 2 => .requeue .localDb 10

def cancelSchedule : List (Fin 3 × Time) :=
  List.replicate 8 (0,2) ++ List.replicate 40 (1,3) ++ List.replicate 60 (2,100000000) ++
    List.replicate 200 (0,100000001)

-- The run is requeued and leased to another worker after the check of the completion, or only requeued,
-- its cancellation being asked for: the status is checked on the one path of the finalisation only.
theorem stale_completion_decides :
    let _ := plainDigest
    (staleCompletion 0).presented = some 10 ∧ (cancelledCompletion 0).presented = some 10 ∧
    (∃ tr g, Run (fun _ _ => True) (Global.init leasedWorld fun i => (staleCompletion i).program) tr g ∧
      leasesOver tr = [(0,some 10,some .running),(1,some 10,some .queued),(2,none,some .running),
        (0,some 15,some .patchReady)]) ∧
    ∃ tr g, Run (fun _ _ => True) (Global.init leasedWorld fun i => (cancelledCompletion i).program) tr g ∧
      leasesOver tr = [(0,some 10,some .running),(1,some 10,some .running),(1,some 10,some .running),
        (2,some 10,some .queued),(0,none,some .cancelled)] := by
  intro _
  have hstale : (((Global.init leasedWorld fun i => (staleCompletion i).program).play
      (fun _ _ => true) staleSchedule).map fun r => leasesOver r.1) =
      some [(0,some 10,some .running),(1,some 10,some .queued),(2,none,some .running),
        (0,some 15,some .patchReady)] := by decide +kernel
  have hcancelled : (((Global.init leasedWorld fun i => (cancelledCompletion i).program).play
      (fun _ _ => true) cancelSchedule).map fun r => leasesOver r.1) =
      some [(0,some 10,some .running),(1,some 10,some .running),(1,some 10,some .running),
        (2,some 10,some .queued),(0,none,some .cancelled)] := by decide +kernel
  have hplayed {ops : Fin 3 → CloudRunnerOp} {schedule : List (Fin 3 × Time)}
      {leases : List (Fin 3 × Option Id × Option RunStatus)}
      (h : (((Global.init leasedWorld fun i => (ops i).program).play (fun _ _ => true) schedule).map
        fun r => leasesOver r.1) = some leases) :
      ∃ tr g, Run (fun _ _ => True) (Global.init leasedWorld fun i => (ops i).program) tr g ∧
        leasesOver tr = leases := by
    obtain ⟨⟨tr,g⟩,hp,heq⟩ := Option.map_eq_some_iff.mp h
    exact ⟨tr,g,by simpa using (Global.play_run (.refl) _ hp).weaken fun _ _ _ => trivial,heq⟩
  exact ⟨rfl,rfl,hplayed hstale,hplayed hcancelled⟩

end AiScdc
