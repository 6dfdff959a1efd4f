import AiScdc.CloudRunner.CancelRace
import AiScdc.Transaction.Holding

namespace AiScdc
open Transaction

namespace CloudRunnerOp

def isClaim : CloudRunnerOp → Bool
  | .claim _ => true
  | _ => false

def isProcess : CloudRunnerOp → Bool
  | .process _ _ _ _ => true
  | _ => false

def isCancel : CloudRunnerOp → Bool
  | .cancel _ _ => true
  | _ => false

end CloudRunnerOp

-- What a transaction of o leaves of a run that it found as c.
inductive Attempted (o : CloudRunnerOp) (c c' : CloudRun) : Prop
  | kept (hs : c'.status = c.status) (hn : SameAttempts c c')
  | leased (ho : o.isClaim) (hq : c.status = .queued) (hlt : c.attemptCount < c.maxAttempts)
      (hs : c'.status = .running) (hn : c'.attemptCount = c.attemptCount + 1)
      (hm : c'.maxAttempts = c.maxAttempts)
  | started (ho : o.isProcess) (hq : c.status = .queued) (hs : c'.status = .running)
      (hn : SameAttempts c c')
  | cancelled (ho : o.isCancel) (hq : c.status = .queued) (hs : c'.status = .cancelled)
      (hn : SameAttempts c c')
  | requeued (ho : o.isRequeue) (hs : c'.status = .queued) (hn : SameAttempts c c')
  | ended (hclaim : o.isClaim = false) (hcancel : o.isCancel = false) (hs : c'.status.terminal = true)
      (hn : SameAttempts c c')

-- What one more statement of o may do to a run that its transaction left as c.
structure Steps (o : CloudRunnerOp) (c c' : CloudRun) : Prop where
  attempted : ∀ a, Attempted o a c → Attempted o a c'
  created : o.isEnqueue → c'.attemptCount = c.attemptCount

section steps

variable {o : CloudRunnerOp} {c c' : CloudRun}

theorem steps_same (hs : c'.status = c.status) (hn : SameAttempts c c') : Steps o c c' := by
  refine ⟨fun a ha => ?_,fun _ => hn.attemptCount⟩
  cases ha with
  | kept hs' hn' => exact .kept (hs.trans hs') (hn'.trans hn)
  | leased ho hq hlt hs' hc hm =>
    exact .leased ho hq hlt (hs.trans hs') (hn.attemptCount.trans hc) (hn.maxAttempts.trans hm)
  | started ho hq hs' hn' => exact .started ho hq (hs.trans hs') (hn'.trans hn)
  | cancelled ho hq hs' hn' => exact .cancelled ho hq (hs.trans hs') (hn'.trans hn)
  | requeued ho hs' hn' => exact .requeued ho (hs.trans hs') (hn'.trans hn)
  | ended h h' hs' hn' => exact .ended h h' (hs ▸ hs') (hn'.trans hn)

theorem Attempted.sameAttempts {a : CloudRun} (h : Attempted o a c) (ho : o.isClaim = false) :
    SameAttempts a c := by
  cases h with
  | leased hc => simp [ho] at hc
  | kept _ hn => exact hn
  | started _ _ _ hn => exact hn
  | cancelled _ _ _ hn => exact hn
  | requeued _ _ hn => exact hn
  | ended _ _ _ hn => exact hn

theorem steps_ended (hclaim : o.isClaim = false) (hcancel : o.isCancel = false)
    (hs : c'.status.terminal = true) (hn : SameAttempts c c') : Steps o c c' :=
  ⟨fun _ ha => .ended hclaim hcancel hs ((ha.sameAttempts hclaim).trans hn),fun _ => hn.attemptCount⟩

theorem not_claim (h : o.isRequeue ∨ o.isProcess ∨ o.isCancel ∨ o.isEnqueue) : o.isClaim = false := by
  cases o <;> simp_all [CloudRunnerOp.isRequeue,CloudRunnerOp.isProcess,CloudRunnerOp.isCancel,
    CloudRunnerOp.isEnqueue,CloudRunnerOp.isClaim]

theorem steps_requeued (ho : o.isRequeue) (hs : c'.status = .queued) (hn : SameAttempts c c') :
    Steps o c c' :=
  ⟨fun _ ha => .requeued ho hs ((ha.sameAttempts (not_claim (Or.inl ho))).trans hn),
    fun _ => hn.attemptCount⟩

-- A row that is queued inside a transaction other than a requeue was found queued.
theorem Attempted.queued {a : CloudRun} (h : Attempted o a c) (ho : o.isRequeue = false)
    (hq : c.status = .queued) : a.status = .queued ∧ SameAttempts a c := by
  cases h with
  | kept hs hn => exact ⟨hs ▸ hq,hn⟩
  | leased _ _ _ hs => simp [hs] at hq
  | started _ _ hs => simp [hs] at hq
  | cancelled _ _ hs => simp [hs] at hq
  | requeued hr => simp [ho] at hr
  | ended _ _ hs => simp [hq,RunStatus.terminal] at hs

theorem not_requeue (h : o.isClaim ∨ o.isProcess ∨ o.isCancel) : o.isRequeue = false := by
  cases o <;> simp_all [CloudRunnerOp.isRequeue,CloudRunnerOp.isProcess,CloudRunnerOp.isCancel,
    CloudRunnerOp.isClaim]

theorem steps_leased (ho : o.isClaim) (hg : isClaimable c = true) (workerId workerKind : String)
    (leaseId : Id) (leaseExpiresAt now : Time) :
    Steps o c (c.leased workerId workerKind leaseId leaseExpiresAt now) := by
  simp only [isClaimable,Bool.and_eq_true,decide_eq_true_eq] at hg
  refine ⟨fun a ha => ?_,fun he => ?_⟩
  · obtain ⟨hq,hn⟩ := ha.queued (not_requeue (Or.inl ho)) hg.1.1
    have hlt := hg.2
    rw [hn.attemptCount,hn.maxAttempts] at hlt
    refine .leased ho hq hlt rfl ?_ hn.maxAttempts
    show c.attemptCount + 1 = a.attemptCount + 1
    rw [hn.attemptCount]
  · simp [not_claim (Or.inr (Or.inr (Or.inr he)))] at ho

theorem steps_started (ho : o.isProcess) (hg : c.status = .queued) (workerId : String) (now : Time) :
    Steps o c (c.claimed workerId now) := by
  refine ⟨fun a ha => ?_,fun _ => rfl⟩
  obtain ⟨hq,hn⟩ := ha.queued (not_requeue (Or.inr (Or.inl ho))) hg
  exact .started ho hq rfl ⟨hn.attemptCount,hn.maxAttempts⟩

theorem steps_cancelled (ho : o.isCancel) (hg : c.status = .queued) (now : Time) :
    Steps o c (c.cancelledWhileQueued now) := by
  refine ⟨fun a ha => ?_,fun _ => rfl⟩
  obtain ⟨hq,hn⟩ := ha.queued (not_requeue (Or.inr (Or.inr ho))) hg
  exact .cancelled ho hq rfl ⟨hn.attemptCount,hn.maxAttempts⟩

-- The operations that make an edit.
def RunEdit.of (o : CloudRunnerOp) : RunEdit → Prop
  | .create => o.isEnqueue
  | .lease => o.isClaim
  | .take => o.isProcess
  | .drop => o.isCancel
  | .requeue => o.isRequeue
  | .keep => o.isClaim = false ∧ o.isCancel = false
  | .link | .still => True

theorem edits_of {id : Id} {e : RunEdit} (h : o.edits id e) : e.of o := by
  cases o <;> cases e <;> simp_all [CloudRunnerOp.edits,RunEdit.of,CloudRunnerOp.isEnqueue,
    CloudRunnerOp.isClaim,CloudRunnerOp.isProcess,CloudRunnerOp.isCancel,CloudRunnerOp.isRequeue]

theorem runWhere_steps {e : RunEdit} (ho : e.of o) {guard : CloudRun → Bool}
    {values : CloudRun → CloudRun} (h : RunWhere e guard values) (hg : guard c = true) :
    Steps o c (values c) := by
  cases h with
  | lease workerId workerKind leaseId leaseExpiresAt now => exact steps_leased ho hg _ _ _ _ _
  | claim workerId now => exact steps_started ho (by simpa using hg) workerId now
  | cancelQueued now => exact steps_cancelled ho (by simpa using hg) now
  | askCancel now => exact steps_same rfl ⟨rfl,rfl⟩

theorem flush_attempts (l n c : CloudRun) (h : SameAttempts l n) : SameAttempts c (l.flush n c) :=
  ⟨by simp [CloudRun.flush,h.attemptCount],by simp [CloudRun.flush,h.maxAttempts]⟩

theorem pick_new {α : Type} [DecidableEq α] {l n c : α} : pick l n c = c ∨ pick l n c = n := by
  unfold pick
  split
  · exact Or.inl rfl
  · exact Or.inr rfl

theorem keeps_steps (ho : RunEdit.of o .keep) {l n : CloudRun} (h : KeepsRun l n) (c : CloudRun) :
    Steps o c (l.flush n c) := by
  have hn := flush_attempts l n c h.attempts
  rcases h.moves with hs | ht
  · exact steps_same (by simp [CloudRun.flush,hs]) hn
  · rcases pick_new (l := l.status) (n := n.status) (c := c.status) with hp | hp
    · exact steps_same hp hn
    · refine steps_ended ho.1 ho.2 ?_ hn
      show (pick l.status n.status c.status).terminal = true
      rwa [hp]

theorem runFlush_steps {e : RunEdit} (ho : e.of o) {l n : CloudRun} (h : RunFlush e l n)
    (c : CloudRun) : Steps o c (l.flush n c) := by
  cases h with
  | still hk hs => exact steps_same (by simp [CloudRun.flush,hs]) (flush_attempts l n c hk.attempts)
  | keep hk => exact keeps_steps ho hk c
  | link headBranch localRunId now =>
    have hn := flush_attempts l (l.linked headBranch localRunId now) c ⟨rfl,rfl⟩
    exact steps_same (by simp [CloudRun.flush,CloudRun.linked]) hn
  | requeue now =>
    have hn := flush_attempts l (l.requeued now) c ⟨rfl,rfl⟩
    rcases pick_new (l := l.status) (n := (l.requeued now).status) (c := c.status) with hp | hp
    · exact steps_same hp hn
    · exact steps_requeued ho hp hn

theorem result_steps (ho : RunEdit.of o .keep) (l c : CloudRun) (status : ResultStatus)
    (artifactId : Option Id) (results : List CommandResult) (reason : Option String) (now : Time) :
    Steps o c (l.flush (l.resultRecorded status artifactId results reason now) c) := by
  have hn := flush_attempts l (l.resultRecorded status artifactId results reason now) c ⟨rfl,rfl⟩
  rcases pick_new (l := l.status) (n := status.runStatus) (c := c.status) with hp | hp
  · exact steps_same hp hn
  · refine steps_ended ho.1 ho.2 ?_ hn
    show (pick l.status status.runStatus c.status).terminal = true
    rw [hp]
    cases status <;> rfl

end steps

def attemptsKept (o : CloudRunnerOp) : ∀ k : Key, Row k → Row k → Row k → Prop
  | .cloudRun _, _, v, u =>
      (∀ c, v = some c → ∃ c', u = some c' ∧ Attempted o c c') ∧
        (v = none → ∀ c', u = some c' → o.isEnqueue ∧ c'.attemptCount = 0)
  | _, _, _, _ => True

section rules

variable {o : CloudRunnerOp}

theorem attemptsKept_plain {k : Key} (h : k.isPlain) (l v u : Row k) : attemptsKept o k l v u := by
  cases k with
  | cloudRun id => cases h
  | _ => trivial

theorem attemptsKept_refl (k : Key) (l v : Row k) : attemptsKept o k l v v := by
  cases k with
  | cloudRun id =>
    exact ⟨fun c hc => ⟨c,hc,.kept rfl (sameAttempts_refl c)⟩,fun hn c hc => by rw [hn] at hc; cases hc⟩
  | _ => trivial

theorem attemptsKept_map {id : Id} {l v u : Option CloudRun} (h : attemptsKept o (.cloudRun id) l v u)
    {f : CloudRun → CloudRun} (hf : ∀ c, u = some c → Steps o c (f c)) :
    attemptsKept o (.cloudRun id) l v (u.map f) := by
  refine ⟨fun c hc => ?_,fun hn c' hc' => ?_⟩
  · obtain ⟨c',rfl,ha⟩ := h.1 c hc
    exact ⟨f c',rfl,(hf c' rfl).attempted c ha⟩
  · obtain ⟨c,rfl,rfl⟩ := Option.map_eq_some_iff.mp hc'
    obtain ⟨ho,h₀⟩ := h.2 hn c rfl
    exact ⟨ho,((hf c rfl).created ho).trans h₀⟩

theorem attempts_update {x y : RunPhase} {k : Key} {g : Row k → Bool} {s : Row k → Row k}
    (h : RunUpdate o.edits x k g s y) {l v u : Row k} (hu : attemptsKept o k l v u) (hg : g u = true) :
    attemptsKept o k l v (s u) := by
  cases h with
  | plain k g s hk => exact attemptsKept_plain hk _ _ _
  | artifact id localRunId artifactId row hr => trivial
  | create id row hx hA h₀ =>
    refine ⟨fun c hc => ?_,fun _ c' hc' => ?_⟩
    · obtain ⟨c',rfl,_⟩ := hu.1 c hc
      simp at hg
    · obtain rfl := Option.some.inj hc'
      exact ⟨edits_of hA,h₀⟩
  | edit id hx hw hA =>
    refine attemptsKept_map hu fun c hc => runWhere_steps (edits_of hA) hw ?_
    subst hc
    exact hg
  | finalization id localRunId now hA => exact attemptsKept_map hu fun c _ => steps_same rfl ⟨rfl,rfl⟩

theorem attempts_write {x y : RunPhase} {k : Key} {l' n : Row k} (h : RunWrite o.edits x k l' n y)
    {l v u : Row k} (hu : attemptsKept o k l v u) : attemptsKept o k l v (mergeRow k l' n u) := by
  cases h with
  | plain k l n hk => exact attemptsKept_plain hk _ _ _
  | task id localRunId taskId l n => trivial
  | edit id hx hw hA =>
    rw [mergeRow_map]
    exact attemptsKept_map hu fun c _ => runFlush_steps (edits_of hA) hw c
  | heldEdit id localRunId hk hA =>
    rw [mergeRow_map]
    exact attemptsKept_map hu fun c _ => keeps_steps (edits_of hA) hk c
  | result id localRunId status artifactId results reason now hA =>
    rw [mergeRow_map]
    exact attemptsKept_map hu fun c _ => result_steps (edits_of hA) _ c _ _ _ _ _

theorem attemptRules (o : CloudRunnerOp) :
    RowRules (runCourse o.edits) (fun _ _ _ _ => True) (attemptsKept o) where
  update h hg := attempts_update h (attemptsKept_refl _ _ _) hg
  flush h _ _ := attempts_write h (attemptsKept_refl _ _ _)
  updateAgain hu h hg := attempts_update h hu hg
  flushAgain hu h _ _ := attempts_write h hu

end rules

def statusOf (db : Db) (id : Id) : Option RunStatus := (db (.cloudRun id)).map CloudRun.status

def attempts (db : Db) (id : Id) : ℕ := ((db (.cloudRun id)).map CloudRun.attemptCount).getD 0

def withinAttempts (db : Db) : Prop :=
  ∀ id c, db (.cloudRun id) = some c → c.attemptCount ≤ c.maxAttempts

section races

variable {ι : Type}

-- A commit of a claim that took the run from the queue: it grants a lease.
def granted (ops : ι → CloudRunnerOp) (id : Id) (c : Commit ι Row) : Bool :=
  (ops c.thread).isClaim && statusOf c.before id = some .queued && statusOf c.after id = some .running

-- A commit that changed a queued state of the run.
def dequeues (id : Id) (c : Commit ι Row) : Prop :=
  statusOf c.before id = some .queued ∧ statusOf c.after id ≠ some .queued

-- How the operations change a queued state. Only a flush of a run loaded earlier ends it otherwise.
inductive Dequeued (o : CloudRunnerOp) (s : RunStatus) : Prop
  | leased (ho : o.isClaim) (hs : s = .running)
  | started (ho : o.isProcess) (hs : s = .running)
  | cancelled (ho : o.isCancel) (hs : s = .cancelled)
  | flushed (hclaim : o.isClaim = false) (hcancel : o.isCancel = false) (hs : s.terminal)

section commits

variable {o : CloudRunnerOp} {c : Commit ι Row}

theorem commit_attempts (h : RowWise (attemptsKept o) c.pend c.before) (id : Id) :
    attemptsKept o (.cloudRun id) none (c.before (.cloudRun id)) (c.after (.cloudRun id)) := by
  cases hp : c.pend (.cloudRun id) with
  | none =>
    rw [show c.after (.cloudRun id) = _ from Pending.view_of_none hp _]
    exact attemptsKept_refl (.cloudRun id) _ _
  | some wr =>
    rw [show c.after (.cloudRun id) = _ from Pending.view_of_some hp _]
    exact h (.cloudRun id) wr hp

theorem Attempted.within {r r' : CloudRun} (h : Attempted o r r') (hr : r.attemptCount ≤ r.maxAttempts) :
    r'.attemptCount ≤ r'.maxAttempts := by
  by_cases ho : o.isClaim = false
  · have hn := h.sameAttempts ho
    rwa [hn.attemptCount,hn.maxAttempts]
  · cases h with
    | kept _ hn => rwa [hn.attemptCount,hn.maxAttempts]
    | leased _ _ hlt _ hn hm =>
      rw [hn,hm]
      exact hlt
    | started _ _ _ hn => rwa [hn.attemptCount,hn.maxAttempts]
    | cancelled _ _ _ hn => rwa [hn.attemptCount,hn.maxAttempts]
    | requeued _ _ hn => rwa [hn.attemptCount,hn.maxAttempts]
    | ended hclaim => exact (ho hclaim).elim

theorem statusOf_some {db : Db} {id : Id} {s : RunStatus} :
    statusOf db id = some s ↔ ∃ r, db (.cloudRun id) = some r ∧ r.status = s :=
  Option.map_eq_some_iff

theorem attempts_of {db : Db} {id : Id} {r : CloudRun} (h : db (.cloudRun id) = some r) :
    attempts db id = r.attemptCount := by simp [attempts,h]

theorem Attempted.counts {r r' : CloudRun} (h : Attempted o r r') :
    r'.attemptCount = r.attemptCount +
      if o.isClaim ∧ r.status = .queued ∧ r'.status = .running then 1 else 0 := by
  cases h with
  | leased ho hq hlt hs hn hm => simp [ho,hq,hs,hn]
  | kept hs hn =>
    rw [if_neg,hn.attemptCount,Nat.add_zero]
    rintro ⟨_,hq,hr⟩
    simp [hs,hq] at hr
  | started ho hq hs hn =>
    simp [not_claim (Or.inr (Or.inl ho)),hn.attemptCount]
  | cancelled ho hq hs hn => simp [not_claim (Or.inr (Or.inr (Or.inl ho))),hn.attemptCount]
  | requeued ho hs hn => simp [not_claim (Or.inl ho),hn.attemptCount]
  | ended hclaim hcancel hs hn => simp [hclaim,hn.attemptCount]

theorem commit_counts {ops : ι → CloudRunnerOp} {c : Commit ι Row}
    (h : RowWise (attemptsKept (ops c.thread)) c.pend c.before) (id : Id) :
    attempts c.after id = attempts c.before id + if granted ops id c then 1 else 0 := by
  obtain ⟨hsome,hnone⟩ := commit_attempts h id
  cases hr : c.before (.cloudRun id) with
  | none =>
    have hno : granted ops id c = false := by simp [granted,statusOf,hr]
    have hzero : attempts c.after id = 0 := by
      cases hr' : c.after (.cloudRun id) with
      | none => simp [attempts,hr']
      | some r' => rw [attempts_of hr',(hnone hr r' hr').2]
    rw [hzero]
    simp [hno,attempts,hr]
  | some r =>
    obtain ⟨r',hr',ha⟩ := hsome r hr
    rw [attempts_of hr,attempts_of hr',ha.counts]
    simp [granted,statusOf,hr,hr',and_assoc]

theorem Attempted.dequeued {r r' : CloudRun} (h : Attempted o r r') (hq : r.status = .queued)
    (hs : r'.status ≠ .queued) : Dequeued o r'.status := by
  cases h with
  | kept hs' => exact (hs (hs'.trans hq)).elim
  | leased ho _ _ hs' => exact .leased ho hs'
  | started ho _ hs' => exact .started ho hs'
  | cancelled ho _ hs' => exact .cancelled ho hs'
  | requeued _ hs' => exact (hs hs').elim
  | ended hclaim hcancel hs' => exact .flushed hclaim hcancel hs'

theorem commit_dequeued (h : RowWise (attemptsKept o) c.pend c.before) {id : Id}
    (hd : dequeues id c) : ∃ s, statusOf c.after id = some s ∧ Dequeued o s := by
  obtain ⟨r,hr,hq⟩ := statusOf_some.mp hd.1
  obtain ⟨r',hr',ha⟩ := (commit_attempts h id).1 r hr
  refine ⟨r'.status,statusOf_some.mpr ⟨r',hr',rfl⟩,ha.dequeued hq fun hq' => hd.2 ?_⟩
  exact statusOf_some.mpr ⟨r',hr',hq'⟩

-- The run is there, and not in the queue.
def outOfQueue (id : Id) (db : Db) : Prop := ∃ s, statusOf db id = some s ∧ s ≠ .queued

theorem Attempted.enqueues {r r' : CloudRun} (h : Attempted o r r') (hs : r.status ≠ .queued)
    (hs' : r'.status = .queued) : o.isRequeue := by
  cases h with
  | requeued ho => exact ho
  | kept hk => exact (hs (hk ▸ hs')).elim
  | leased _ hq => exact (hs hq).elim
  | started _ hq => exact (hs hq).elim
  | cancelled _ hq => exact (hs hq).elim
  | ended _ _ ht => simp [hs',RunStatus.terminal] at ht

theorem commit_enqueues (h : RowWise (attemptsKept o) c.pend c.before) {id : Id}
    (hb : outOfQueue id c.before) (ha : ¬ outOfQueue id c.after) :
    o.isRequeue ∧ statusOf c.after id = some .queued := by
  obtain ⟨s,hs,hq⟩ := hb
  obtain ⟨r,hr,rfl⟩ := statusOf_some.mp hs
  obtain ⟨r',hr',hrr⟩ := (commit_attempts h id).1 r hr
  have hqueued : r'.status = .queued := by
    by_contra hne
    exact ha ⟨_,statusOf_some.mpr ⟨r',hr',rfl⟩,hne⟩
  exact ⟨hrr.enqueues hq hqueued,statusOf_some.mpr ⟨r',hr',hqueued⟩⟩

theorem commit_within (h : RowWise (attemptsKept o) c.pend c.before) (hw : withinAttempts c.before) :
    withinAttempts c.after := by
  intro id r' hr'
  obtain ⟨hsome,hnone⟩ := commit_attempts h id
  cases hr : c.before (.cloudRun id) with
  | none =>
    obtain ⟨_,h₀⟩ := hnone hr r' hr'
    rw [h₀]
    exact Nat.zero_le _
  | some r =>
    obtain ⟨r₁,hr₁,ha⟩ := hsome r hr
    obtain rfl := Option.some.inj (hr₁.symm.trans hr')
    exact ha.within (hw id r hr)

end commits

-- The conditional updates that race for a queued run.
inductive QueueUpdate : CloudRunnerOp → (CloudRun → Bool) → (CloudRun → CloudRun) → Prop
  | lease (req : ClaimRequest) (workerId workerKind : String) (leaseId : Id) (leaseExpiresAt now : Time) :
      QueueUpdate (.claim req) isClaimable fun c => c.leased workerId workerKind leaseId leaseExpiresAt now
  | claim (ctx : Option AuthContext) (id : Id) (replies : ProcessReplies) (workerId : String) (now : Time) :
      QueueUpdate (.process ctx id workerId replies) (fun c => c.status = .queued) fun c => c.claimed workerId now
  | cancel (ctx : Option AuthContext) (id : Id) (now : Time) :
      QueueUpdate (.cancel ctx id) (fun c => c.status = .queued) fun c => c.cancelledWhileQueued now

section queueUpdates

variable {o : CloudRunnerOp} {guard : CloudRun → Bool} {values : CloudRun → CloudRun} {r : CloudRun}

theorem QueueUpdate.finds_queued (h : QueueUpdate o guard values) (hg : guard r = true) :
    r.status = .queued := by
  cases h with
  | lease =>
    simp only [isClaimable,Bool.and_eq_true,decide_eq_true_eq] at hg
    exact hg.1.1
  | claim => simpa using hg
  | cancel => simpa using hg

theorem QueueUpdate.takes (h : QueueUpdate o guard values) :
    (values r).status = .running ∨ (values r).status = .cancelled := by
  cases h with
  | lease => exact Or.inl rfl
  | claim => exact Or.inl rfl
  | cancel => exact Or.inr rfl

theorem QueueUpdate.not_requeue (h : QueueUpdate o guard values) : o.isRequeue = false := by
  cases h <;> rfl

theorem QueueUpdate.not_enqueue (h : QueueUpdate o guard values) : ¬ o.isEnqueue := by
  cases h <;> exact Bool.false_ne_true

end queueUpdates

def isOutOfQueue (row : Option CloudRun) : Prop := ∃ r, row = some r ∧ r.status ≠ .queued

theorem not_queued_of_out {db : Db} {id : Id} (h : isOutOfQueue (db (.cloudRun id))) :
    statusOf db id ≠ some .queued := by
  obtain ⟨r,hr,hs⟩ := h
  intro hq
  obtain ⟨r',hr',hs'⟩ := statusOf_some.mp hq
  rw [Option.some.inj (hr.symm.trans hr')] at hs
  exact hs hs'

theorem attemptsKept_out {o : CloudRunnerOp} (ho : o.isRequeue = false) {id : Id} {l v u : Option CloudRun}
    (h : attemptsKept o (.cloudRun id) l v u) (hv : isOutOfQueue v) : isOutOfQueue u := by
  obtain ⟨r,rfl,hs⟩ := hv
  obtain ⟨r',rfl,hrr⟩ := h.1 r rfl
  refine ⟨r',rfl,fun hq => ?_⟩
  have hr := hrr.enqueues hs hq
  rw [ho] at hr
  cases hr

-- Only a requeue puts a run back into the queue.
theorem keeps_out {o : CloudRunnerOp} (ho : o.isRequeue = false) (id : Id) :
    (runCourse o.edits).Keeps (.cloudRun id) isOutOfQueue where
  update h hv hg := attemptsKept_out (l := none) ho (attempts_update h (attemptsKept_refl _ _ _) hg) hv
  flush h hv := attemptsKept_out (l := none) ho (attempts_write h (attemptsKept_refl _ _ _)) hv

theorem pending_queued {ops : ι → CloudRunnerOp} {tr : List (Commit ι Row)}
    {g : Global ι Row Time Exn} {i : ι} {id : Id} {r : CloudRun}
    (h : RowsKept (fun i => attemptsKept (ops i)) tr g.pends g.world) (hr : (ops i).isRequeue = false)
    (he : ¬ (ops i).isEnqueue) (hv : g.view i (.cloudRun id) = some r) (hq : r.status = .queued) :
    statusOf g.world.db id = some .queued := by
  cases hp : (g.thread i).pend (.cloudRun id) with
  | none =>
    rw [show g.view i (.cloudRun id) = _ from Pending.view_of_none hp _] at hv
    exact statusOf_some.mpr ⟨r,hv,hq⟩
  | some wr =>
    obtain ⟨hsome,hnone⟩ := h.pending i (.cloudRun id) wr hp
    rw [show g.view i (.cloudRun id) = _ from Pending.view_of_some hp _] at hv
    cases hdb : g.world.db (.cloudRun id) with
    | none => exact (he (hnone hdb r hv).1).elim
    | some c =>
      obtain ⟨c',hc',ha⟩ := hsome c hdb
      obtain rfl := Option.some.inj (hc'.symm.trans hv)
      exact statusOf_some.mpr ⟨c,hdb,(ha.queued hr hq).1⟩

theorem attempts_annotated [DecidableEq ι] (ops : ι → CloudRunnerOp) :
    Annotated (fun i => runCourse (ops i).edits) (fun _ _ _ _ _ => True)
      fun tr _ pd w => RowsKept (fun i => attemptsKept (ops i)) tr pd w :=
  RowsKept.annotated fun i => attemptRules (ops i)

variable [Fintype ι] [DecidableEq ι] [Digest]

-- The update of thread i takes a run from the queue. Until its transaction ends no other update of
-- the run steps and no commit changes its status; its commit is the one that does.
structure TakesFromQueue (id : Id) (i : ι) (g g' : Global ι Row Time Exn) : Prop where
  queued : statusOf g.world.db id = some .queued
  taken : statusOf (g'.view i) id = some .running ∨ statusOf (g'.view i) id = some .cancelled
  decides : ∀ tr g'', Run (fun g j => j = i → (g.thread i).prog.givesUp = false) g' tr g'' →
    (statusOf (g''.view i) id ≠ some .queued ∧
      (∀ j guard set k t, j ≠ i → (g''.thread j).prog = .update (.cloudRun id) guard set k →
        g''.step j t = none) ∧
      ∀ c ∈ tr, c.thread ≠ i ∧ statusOf c.after id = statusOf c.before id) ∨
    ∃ tr₁ c tr₂, tr = tr₁ ++ c :: tr₂ ∧ c.thread = i ∧ dequeues id c ∧
      ∀ d ∈ tr₁, d.thread ≠ i ∧ statusOf d.after id = statusOf d.before id

theorem run_attempted {ops : ι → CloudRunnerOp} {w : World} {tr : List (Commit ι Row)}
    {g : Global ι Row Time Exn}
    (h : Run (fun _ _ => True) (Global.init w fun i => (ops i).program) tr g) :
    ∀ c ∈ tr, RowWise (attemptsKept (ops c.thread)) c.pend c.before :=
  Run.rowWise (P := fun i => runCourse (ops i).edits) (X := fun _ => .clean)
    (F := fun _ _ _ _ _ => True) (S := fun i => attemptsKept (ops i))
    (fun i => writes_program (ops i)) (fun i => attemptRules (ops i))
    (fun _ _ _ _ _ _ _ _ => trivial) h

theorem queueUpdate_takes {ops : ι → CloudRunnerOp} {w : World} {tr : List (Commit ι Row)}
    {g g' : Global ι Row Time Exn}
    (h : Run (fun _ _ => True) (Global.init w fun i => (ops i).program) tr g) {i : ι} {id : Id} {t : Time}
    {guard : CloudRun → Bool} {values : CloudRun → CloudRun} {k : Bool → Op Unit}
    (hq : QueueUpdate (ops i) guard values)
    (hp : (g.thread i).prog =
      .update (.cloudRun id) (fun row => row.any guard) (fun row => row.map values) k)
    (hg : (g.view i (.cloudRun id)).any guard = true) (hs : g.step i t = some g') :
    TakesFromQueue id i g g' := by
  have hA := attempts_annotated ops
  have hstands {tr : List (Commit ι Row)} {g : Global ι Row Time Exn}
      (h : Run (fun _ _ => True) (Global.init w fun i => (ops i).program) tr g) :=
    h.execution.standing hA (fun _ _ _ _ _ _ _ _ _ => trivial) (fun i => writes_program (ops i))
      ⟨fun _ => rowWise_empty,by simp⟩
  obtain ⟨_,hst⟩ := hstands h
  obtain ⟨_,hst'⟩ := hstands (h.step i t trivial hs)
  obtain ⟨r,hr,hguard⟩ := (Option.any_eq_true _ _).mp hg
  have hfound : statusOf g.world.db id = some .queued :=
    pending_queued hst.inv hq.not_requeue hq.not_enqueue hr (hq.finds_queued hguard)
  have hset : (g.view i (.cloudRun id)).map values = some (values r) := by rw [hr,Option.map_some]
  have hmade : g'.view i (.cloudRun id) = some (values r) :=
    (holds_of_update (S := fun row => row = some (values r)) hp hg hset hs).kept
  have htaken := hq.takes (r := r)
  have hout : isOutOfQueue ((g.view i (.cloudRun id)).map values) := by
    refine ⟨values r,hset,fun hqueued => ?_⟩
    rw [hqueued] at htaken
    rcases htaken with hrunning | hcancelled
    · cases hrunning
    · cases hcancelled
  have hheld : g'.Holds i (.cloudRun id) (g.world.db (.cloudRun id)) isOutOfQueue :=
    holds_of_update hp hg hout hs
  have hsame {c : Commit ι Row} (hc : c.after (.cloudRun id) = c.before (.cloudRun id)) :
      statusOf c.after id = statusOf c.before id := by rw [statusOf,statusOf,hc]
  refine ⟨hfound,?_,fun tr' g'' hrun => ?_⟩
  · exact htaken.imp (fun e => statusOf_some.mpr ⟨_,hmade,e⟩) fun e => statusOf_some.mpr ⟨_,hmade,e⟩
  · rcases hrun.settles hA (fun _ _ _ _ _ _ _ _ _ => trivial) (fun _ hup => hup rfl)
      (keeps_out hq.not_requeue id) hst' hheld with ⟨hholds,hothers⟩ | ⟨tr₁,c,tr₂,rfl,hothers,hi,hbefore,hafter⟩
    · refine Or.inl ⟨not_queued_of_out hholds.kept,fun j guard set k t hj hprog => hholds.blocks hj hprog,?_⟩
      exact fun c hc => ⟨(hothers c hc).1,hsame (hothers c hc).2⟩
    · refine Or.inr ⟨tr₁,c,tr₂,rfl,hi,⟨?_,not_queued_of_out hafter⟩,?_⟩
      · rwa [statusOf,hbefore]
      · exact fun d hd => ⟨(hothers d hd).1,hsame (hothers d hd).2⟩

theorem bounded_attempts_single_winner {ops : ι → CloudRunnerOp} {w : World}
    (hw : withinAttempts w.db) {tr : List (Commit ι Row)} {g : Global ι Row Time Exn}
    (h : Run (fun _ _ => True) (Global.init w fun i => (ops i).program) tr g) :
    withinAttempts g.world.db ∧ ∀ id,
      (attempts g.world.db id = attempts w.db id + tr.countP (granted ops id) ∧
        ((tr.filter (granted ops id)).map fun c => attempts c.after id).Nodup) ∧
      (∀ c ∈ tr, dequeues id c → ∃ s, statusOf c.after id = some s ∧ Dequeued (ops c.thread) s) ∧
      (∀ tr₁ c tr₂ d tr₃, tr = tr₁ ++ c :: (tr₂ ++ d :: tr₃) → dequeues id c → dequeues id d →
        ∃ e ∈ tr₂, (ops e.thread).isRequeue ∧ statusOf e.after id = some .queued) ∧
      ∀ i t guard values k g', QueueUpdate (ops i) guard values →
        (g.thread i).prog =
          .update (.cloudRun id) (fun row => row.any guard) (fun row => row.map values) k →
        g.step i t = some g' →
        ((g.view i (.cloudRun id)).any guard = true → TakesFromQueue id i g g') ∧
        ((g.view i (.cloudRun id)).any guard = false → g'.world = g.world ∧ g'.pends = g.pends) := by
  have hk := run_attempted h
  have hchain : chained w.db tr g.world.db := h.chained
  refine ⟨chained_kept (fun c hc => commit_within (hk c hc)) hchain hw,fun id => ⟨?_,?_,?_,?_⟩⟩
  · obtain ⟨hcount,hgranted⟩ := chained_counts (n := fun db => attempts db id) (p := granted ops id)
      (fun c hc => commit_counts (hk c hc) id) hchain
    refine ⟨hcount,?_⟩
    rw [hgranted]
    exact List.nodup_range'
  · exact fun c hc hd => commit_dequeued (hk c hc) hd
  · intro tr₁ c tr₂ d tr₃ heq hc hd
    rw [heq,chained_append] at hchain
    obtain ⟨_,_,_,hrest⟩ := hchain
    obtain ⟨m,hmid,hm,_⟩ := chained_append.mp hrest
    have hin {e : Commit ι Row} (he : e ∈ tr₂) : e ∈ tr := by simp [heq,he]
    obtain ⟨s,hs,_⟩ := commit_dequeued (hk c (by simp [heq])) hc
    have hout : outOfQueue id c.after := ⟨s,hs,fun hq => hc.2 (hq ▸ hs)⟩
    have hback : ¬ outOfQueue id m := by
      rintro ⟨s',hs',hne⟩
      rw [← hm,hd.1] at hs'
      exact hne (Option.some.inj hs').symm
    obtain ⟨e,he,hb,ha⟩ := chained_turn hmid hout hback
    exact ⟨e,he,commit_enqueues (hk e (hin he)) hb ha⟩
  · intro i t guard values k g' hq hp hs
    exact ⟨fun hg => queueUpdate_takes h hq hp hg hs,fun hg => missed_update hp hg hs⟩

end races

def claimTwice : Fin 4 → CloudRunnerOp
  | 0 => sampleEnqueue 4
  | 2 => .requeue .localDb 10
  | _ => sampleClaim

-- The run is enqueued, claimed, requeued once its lease has expired, and claimed again.
def leaseExpires : List (Fin 4 × Time) :=
  List.replicate 120 (0,0) ++ List.replicate 60 (1,1) ++ List.replicate 40 (2,100000000) ++
    List.replicate 60 (3,100000001)

theorem bounded_attempts_two_leases :
    let _ := plainDigest
    ∃ tr g, Run (fun _ _ => True) (Global.init sampleWorld fun i => (claimTwice i).program) tr g ∧
      tr.countP (granted claimTwice 7) = 2 ∧ attempts g.world.db 7 = 2 := by
  intro _
  have hplay : (((Global.init sampleWorld fun i => (claimTwice i).program).play
      (fun _ _ => true) leaseExpires).map fun r => r.1.countP (granted claimTwice 7)) = some 2 := by
    decide +kernel
  obtain ⟨⟨tr,g⟩,hp,heq⟩ := Option.map_eq_some_iff.mp hplay
  have hrun := (Global.play_run (.refl) _ hp).weaken (B := fun _ _ => True) fun _ _ _ => trivial
  rw [List.nil_append] at hrun
  have hcount : tr.countP (granted claimTwice 7) = 2 := heq
  have hempty : withinAttempts sampleWorld.db := fun id c hc => by cases hc
  refine ⟨tr,g,hrun,hcount,?_⟩
  obtain ⟨hattempts,_⟩ := ((bounded_attempts_single_winner hempty hrun).2 7).1
  rw [hattempts,hcount]
  rfl

end AiScdc
