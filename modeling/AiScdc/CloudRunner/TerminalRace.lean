import AiScdc.CloudRunner.Invariants
import AiScdc.CloudRunner.LeaseFootprints

namespace AiScdc
open Transaction

def CloudRunnerOp.isRequeue : CloudRunnerOp → Bool
  | .requeue _ _ => true
  | _ => false

-- A flush that changes the status of a run finds the run in the status it loaded, which is not a
-- terminal one; a flush by requeue finds the status and the lease expiry that it loaded.
def statusFresh (o : CloudRunnerOp) : ∀ k : Key, Row k → Row k → Row k → Bool
  | .cloudRun _, some l, some n, some c =>
    (n.status = l.status || c.status = l.status && !l.status.terminal) &&
      (!o.isRequeue || c.status = l.status && c.leaseExpiresAt = l.leaseExpiresAt)
  | _, _, _, _ => true

def runFresh {ι : Type} (ops : ι → CloudRunnerOp) (g : Global ι Row Time Exn) (i : ι) : Bool :=
  match (g.thread i).prog with
  | .flush key l n _ => statusFresh (ops i) key l n (g.view i key)
  | _ => true

structure SameLease (c c' : CloudRun) : Prop where
  status : c'.status = c.status
  leaseExpiresAt : c'.leaseExpiresAt = c.leaseExpiresAt

structure RunKept (o : CloudRunnerOp) (l : Option CloudRun) (c c' : CloudRun) : Prop where
  terminal : c.status.terminal → c'.status = c.status
  requeued : o.isRequeue → ∃ c₀, l = some c₀ ∧ SameLease c₀ c

def statusKept (o : CloudRunnerOp) : ∀ k : Key, Row k → Row k → Row k → Prop
  | .cloudRun _, l, v, u => ∀ c, v = some c → ∃ c', u = some c' ∧ RunKept o l c c'
  | _, _, _, _ => True

theorem plain_kept {o : CloudRunnerOp} {k : Key} (h : k.isPlain) (l v u : Row k) :
    statusKept o k l v u := by
  cases k with
  | cloudRun id => cases h
  | _ => trivial

theorem runWhere_status {e : RunEdit} {guard : CloudRun → Bool} {values : CloudRun → CloudRun}
    (h : RunWhere e guard values) {c : CloudRun} (hg : guard c = true) :
    c.status.terminal → (values c).status = c.status := by
  intro ht
  cases h <;> simp_all [isClaimable,RunStatus.terminal]

theorem flush_status {o : CloudRunnerOp} {l n c : CloudRun} {id : Id}
    (hf : statusFresh o (.cloudRun id) (some l) (some n) (some c) = true) (ht : c.status.terminal) :
    (l.flush n c).status = c.status := by
  simp only [statusFresh,Bool.and_eq_true,Bool.or_eq_true,decide_eq_true_eq,Bool.not_eq_true'] at hf
  rcases hf.1 with hs | ⟨hs,hnt⟩
  · simp [CloudRun.flush,hs]
  · rw [hs] at ht
    simp [ht] at hnt

theorem flush_sameLease {o : CloudRunnerOp} {l n c : CloudRun} {id : Id}
    (hf : statusFresh o (.cloudRun id) (some l) (some n) (some c) = true) (ho : o.isRequeue) :
    SameLease l c := by
  simp only [statusFresh,Bool.and_eq_true,Bool.or_eq_true,decide_eq_true_eq,Bool.not_eq_true',ho] at hf
  rcases hf.2 with hn | hs
  · cases hn
  · exact ⟨hs.1,hs.2⟩

theorem update_kept {o : CloudRunnerOp} {A : Id → RunEdit → Prop} {x y : RunPhase} {k : Key}
    {g : Row k → Bool} {s : Row k → Row k} (h : RunUpdate A x k g s y) {l v u : Row k}
    (hu : statusKept o k l v u) (hg : g u = true) : statusKept o k l v (s u) := by
  cases h with
  | plain k g s hk => exact plain_kept hk _ _ _
  | artifact id localRunId artifactId row hr => trivial
  | create id row hx hA h₀ =>
    intro c hc
    obtain ⟨c',rfl,_⟩ := hu c hc
    simp at hg
  | edit id hx hw hA =>
    intro c hc
    obtain ⟨c',rfl,hk⟩ := hu c hc
    refine ⟨_,rfl,fun ht => ?_,hk.requeued⟩
    have hs := hk.terminal ht
    exact (runWhere_status hw hg (hs ▸ ht)).trans hs
  | finalization id localRunId now hA =>
    intro c hc
    obtain ⟨c',rfl,hk⟩ := hu c hc
    exact ⟨_,rfl,hk.terminal,hk.requeued⟩

theorem write_kept {o : CloudRunnerOp} {A : Id → RunEdit → Prop} {x y : RunPhase} {k : Key}
    {l n : Row k} (h : RunWrite A x k l n y) {l₀ v u : Row k} (hu : statusKept o k l₀ v u)
    (hf : statusFresh o k l n u = true) : statusKept o k l₀ v (mergeRow k l n u) := by
  have hrun {id : Id} {l n : CloudRun} {l₀ v u : Option CloudRun}
      (hu : statusKept o (.cloudRun id) l₀ v u)
      (hf : statusFresh o (.cloudRun id) (some l) (some n) u = true) :
      statusKept o (.cloudRun id) l₀ v (mergeRow (.cloudRun id) (some l) (some n) u) := by
    intro c hc
    obtain ⟨c',rfl,hk⟩ := hu c hc
    refine ⟨_,rfl,fun ht => ?_,hk.requeued⟩
    have hs := hk.terminal ht
    exact (flush_status hf (hs ▸ ht)).trans hs
  cases h with
  | plain k l n hk => exact plain_kept hk _ _ _
  | edit id hx hw hA => exact hrun hu hf
  | heldEdit id localRunId hw hA => exact hrun hu hf
  | result id localRunId status artifactId results reason now hA => exact hrun hu hf
  | task id localRunId taskId l n => trivial

theorem loaded_kept {o : CloudRunnerOp} (k : Key) (v : Row k) : statusKept o k v v v := by
  cases k with
  | cloudRun id => exact fun c hc => ⟨c,hc,fun _ => rfl,fun _ => ⟨c,hc,rfl,rfl⟩⟩
  | _ => trivial

theorem flushed_kept {o : CloudRunnerOp} {A : Id → RunEdit → Prop} {x y : RunPhase} {k : Key}
    {l n : Row k} (h : RunWrite A x k l n y) {v : Row k} (hf : statusFresh o k l n v = true) :
    statusKept o k l v (mergeRow k l n v) := by
  refine write_kept h ?_ hf
  have hrun {id : Id} {l n : CloudRun} {v : Option CloudRun}
      (hf : statusFresh o (.cloudRun id) (some l) (some n) v = true) :
      statusKept o (.cloudRun id) (some l) v v := by
    intro c hc
    subst hc
    exact ⟨c,rfl,fun _ => rfl,fun ho => ⟨l,rfl,flush_sameLease hf ho⟩⟩
  cases h with
  | plain k l n hk => exact plain_kept hk _ _ _
  | edit id hx hw hA => exact hrun hf
  | heldEdit id localRunId hw hA => exact hrun hf
  | result id localRunId status artifactId results reason now hA => exact hrun hf
  | task id localRunId taskId l n => trivial

theorem statusRules (o : CloudRunnerOp) :
    RowRules (runCourse o.edits) (fun k l n c => statusFresh o k l n c = true) (statusKept o) where
  update h hg := update_kept h (loaded_kept _ _) hg
  flush h _ hf := flushed_kept h hf
  updateAgain hu h hg := update_kept h hu hg
  flushAgain hu h _ hf := write_kept h hu hf

section races

variable {ι : Type} [Fintype ι] [DecidableEq ι] [Digest]

theorem run_statusKept {ops : ι → CloudRunnerOp} {w : World} {tr : List (Commit ι Row)}
    {g : Global ι Row Time Exn}
    (h : Run (fun g i => runFresh ops g i = true) (Global.init w fun i => (ops i).program) tr g) :
    ∀ c ∈ tr, RowWise (statusKept (ops c.thread)) c.pend c.before := by
  refine Run.rowWise (P := fun i => runCourse (ops i).edits) (X := fun _ => .clean)
    (F := fun i k l n c => statusFresh (ops i) k l n c = true)
    (S := fun i => statusKept (ops i)) (fun i => writes_program (ops i)) (fun i => statusRules (ops i))
    (fun g i key l n k hc hp => ?_) h
  simp only [runFresh,hp] at hc
  exact hc

omit [Fintype ι] [DecidableEq ι] [Digest] in
theorem commit_kept {o : CloudRunnerOp} {c : Commit ι Row} (h : RowWise (statusKept o) c.pend c.before)
    {id : Id} {cloudRun : CloudRun} (hc : c.before (.cloudRun id) = some cloudRun)
    (ht : cloudRun.status.terminal) :
    ∃ cloudRun', c.after (.cloudRun id) = some cloudRun' ∧ cloudRun'.status = cloudRun.status := by
  cases hp : c.pend (.cloudRun id) with
  | none => exact ⟨cloudRun,(Pending.view_of_none hp _).trans hc,rfl⟩
  | some wr =>
    obtain ⟨c',hu,hk⟩ := h (.cloudRun id) wr hp cloudRun hc
    exact ⟨c',(Pending.view_of_some hp _).trans hu,hk.terminal ht⟩

omit [Fintype ι] [DecidableEq ι] [Digest] in
theorem absorbed_chain {ops : ι → CloudRunnerOp} {id : Id} {tr : List (Commit ι Row)}
    (hk : ∀ c ∈ tr, RowWise (statusKept (ops c.thread)) c.pend c.before) {db db' : Db}
    (hc : chained db tr db') {cloudRun : CloudRun} (hrun : db (.cloudRun id) = some cloudRun)
    (ht : cloudRun.status.terminal) :
    ∀ d ∈ tr, (d.after (.cloudRun id)).map CloudRun.status = some cloudRun.status := by
  induction tr generalizing db cloudRun with
  | nil => simp
  | cons c cs ih =>
    obtain ⟨rfl,hc⟩ := hc
    obtain ⟨c',hafter,hs⟩ := commit_kept (hk c (by simp)) hrun ht
    intro d hd
    rcases List.mem_cons.mp hd with rfl | hd
    · simp [hafter,hs]
    · have hlater := ih (fun e he => hk e (by simp [he])) hc hafter (hs ▸ ht) d hd
      rwa [hs] at hlater

-- The run as the SELECT of a requeue returned it, kept with the pending write.
def loadedRun (c : Commit ι Row) (id : Id) : Option CloudRun :=
  (c.pend (.cloudRun id)).bind Write.loaded

theorem terminal_runs_absorb {ops : ι → CloudRunnerOp} {w : World} {tr : List (Commit ι Row)}
    {g : Global ι Row Time Exn}
    (h : Run (fun g i => runFresh ops g i = true) (Global.init w fun i => (ops i).program) tr g) :
    (∀ tr₁ c tr₂ id cloudRun, tr = tr₁ ++ c :: tr₂ → c.after (.cloudRun id) = some cloudRun →
      cloudRun.status.terminal →
      ∀ d ∈ tr₂, (d.after (.cloudRun id)).map CloudRun.status = some cloudRun.status) ∧
    ∀ c ∈ tr, (ops c.thread).isRequeue → ∀ id cloudRun, c.pend (.cloudRun id) ≠ none →
      c.before (.cloudRun id) = some cloudRun →
      ∃ selected, loadedRun c id = some selected ∧ SameLease selected cloudRun := by
  have hk := run_statusKept h
  refine ⟨fun tr₁ c tr₂ id cloudRun heq hafter ht => ?_,fun c hc ho id cloudRun hp hbefore => ?_⟩
  · have hchain := h.chained
    rw [heq,chained_append] at hchain
    obtain ⟨m,_,_,hrest⟩ := hchain
    exact absorbed_chain (fun d hd => hk d (by simp [heq,hd])) hrest hafter ht
  · cases hw : c.pend (.cloudRun id) with
    | none => exact (hp hw).elim
    | some wr =>
      obtain ⟨_,_,hkept⟩ := hk c hc (.cloudRun id) wr hw cloudRun hbefore
      obtain ⟨selected,hl,hsame⟩ := hkept.requeued ho
      exact ⟨selected,by simp [loadedRun,hw,hl],hsame⟩

end races

def leasedWorld : World := (samplePlay (sampleLeased 4)).2

def requeueAndComplete : Bool → CloudRunnerOp
  | false => .requeue .localDb 10
  | true => sampleComplete 10

def runStatuses (tr : List (Commit Bool Row)) : List (Option RunStatus) :=
  tr.map fun c => (c.after (.cloudRun 7)).map CloudRun.status

def completeThenRequeue : List (Bool × Time) :=
  List.replicate 200 (true,2) ++ List.replicate 40 (false,100000000)

theorem terminal_runs_absorb_serial :
    let _ := plainDigest
    ∃ tr g, Run (fun g i => runFresh requeueAndComplete g i = true)
        (Global.init leasedWorld fun i => (requeueAndComplete i).program) tr g ∧
      ∃ tr₁ c tr₂ cloudRun, tr = tr₁ ++ c :: tr₂ ∧ tr₂ ≠ [] ∧
        c.after (.cloudRun 7) = some cloudRun ∧ cloudRun.status = .patchReady ∧
        ∀ d ∈ tr₂, (d.after (.cloudRun 7)).map CloudRun.status = some .patchReady := by
  intro _
  have hplay : (((Global.init leasedWorld fun i => (requeueAndComplete i).program).play
      (runFresh requeueAndComplete) completeThenRequeue).map fun r => runStatuses r.1) =
      some [some .running,some .patchReady,some .patchReady] := by decide +kernel
  obtain ⟨⟨tr,g⟩,hp,heq⟩ := Option.map_eq_some_iff.mp hplay
  have hrun := Global.play_run (.refl) _ hp
  rw [List.nil_append] at hrun
  obtain ⟨c₁,c₂,c₃,rfl⟩ : ∃ c₁ c₂ c₃, tr = [c₁,c₂,c₃] := by
    have hlen : tr.length = 3 := by simpa [runStatuses] using congrArg List.length heq
    exact List.length_eq_three.mp hlen
  simp only [runStatuses,List.map_cons,List.map_nil,List.cons.injEq,Option.map_eq_some_iff] at heq
  obtain ⟨_,⟨cloudRun,hafter,hs⟩,_⟩ := heq
  refine ⟨_,g,hrun,[c₁],c₂,[c₃],cloudRun,rfl,by simp,hafter,hs,fun d hd => ?_⟩
  rw [← hs]
  exact (terminal_runs_absorb hrun).1 [c₁] c₂ [c₃] 7 cloudRun rfl hafter (by simp [hs,RunStatus.terminal])
    d hd

-- The completion commits between the SELECT and the flush of the requeue.
def requeueAround : List (Bool × Time) :=
  List.replicate 8 (true,2) ++ List.replicate 2 (false,100000000) ++
    List.replicate 200 (true,100000001) ++ List.replicate 40 (false,100000002)

theorem requeue_revives_finished_run :
    let _ := plainDigest
    ∃ tr g, Run (fun _ _ => True)
        (Global.init leasedWorld fun i => (requeueAndComplete i).program) tr g ∧
      runStatuses tr = [some .running,some .patchReady,some .queued] := by
  intro _
  have hplay : (((Global.init leasedWorld fun i => (requeueAndComplete i).program).play
      (fun _ _ => true) requeueAround).map fun r => runStatuses r.1) =
      some [some .running,some .patchReady,some .queued] := by decide +kernel
  obtain ⟨⟨tr,g⟩,hp,heq⟩ := Option.map_eq_some_iff.mp hplay
  have hrun := Global.play_run (.refl) _ hp
  exact ⟨tr,g,by simpa using hrun.weaken fun _ _ _ => trivial,heq⟩

end AiScdc
