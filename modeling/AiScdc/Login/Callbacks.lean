import AiScdc.DeviceSessions.Lifetimes
import AiScdc.Login.Progress

namespace AiScdc.Login
open Transaction
open DeviceSessions (DeviceSession SecretHash)

section executions

variable {ι : Type} [DecidableEq ι] [Fintype ι] [SecretHash] {id : Id} {calls : ι → LoginCall} {w : World}
  {tr : List (Commit ι Row)} {g : Global ι Row Outcome Response} {t₀ : LoginTransaction}

-- About to hand the authorization code to the provider.
def Exchanging (m : Op Unit) : Prop := ∃ guard set k, m = .update .provider guard set k

-- A callback that has not claimed, or that answers a provider error, rejects a pending transaction only.
def rejectsPending (id : Id) (calls : ι → LoginCall) (g : Global ι Row Outcome Response) (i : ι) : Bool :=
  match (g.thread i).prog with
  | .flush (.loginTransaction d) (some (l : LoginTransaction)) _ _ =>
    !(d = id && (l.status = .pending || (calls i).answersError)) ||
      (g.view i (.loginTransaction d)).all fun t : LoginTransaction => t.status = .pending
  | _ => true

omit [DecidableEq ι] [Fintype ι] [SecretHash] in
theorem rejectsPending_fresh {i : ι} {k : Key} {l n : Row k} {m : Op Unit}
    (h : rejectsPending id calls g i = true) (hp : (g.thread i).prog = .flush k l n m) :
    freshRejection id True (calls i).answersError k l n (g.view i k) := by
  cases k with
  | loginTransaction d =>
    cases l with
    | none => trivial
    | some l =>
      rintro - rfl hl c hc
      have hstatus : ¬ l.status = .pending ∧ (calls i).answersError = false ∨ c.status = .pending := by
        simpa [rejectsPending,hp,hc] using h
      rcases hstatus with ⟨hne,hanswers⟩ | hstatus
      · rw [hanswers] at hl
        rcases hl with hx | hx
        · exact (hne hx).elim
        · cases hx
      · exact hstatus
  | _ => trivial

theorem logins_run (strict : Prop) {cond : Global ι Row Outcome Response → ι → Prop}
    (hcond : ∀ g i k l n m, cond g i → (g.thread i).prog = .flush k l n m →
      freshRejection id strict (calls i).answersError k l n (g.view i k))
    (hrow : w.db (.loginTransaction id) = some t₀) (hpending : t₀.status = .pending)
    (hnone : t₀.completedSessionId = none) (hid : ∀ i, (calls i).transactionId = id)
    (h : Execution cond (Global.init w fun i => (calls i).program) tr g) :
    ∃ ph, Standing (fun i => loginCourse id (calls i).answersError) (fun _ _ _ => True)
      (fun tr ph pd w => ∃ st, Logins id strict st tr ph pd w) tr ph g := by
  refine h.standing (logins_annotated strict _) (fun g i k l n m hc hp _ => hcond g i k l n m hc hp)
    (fun i => program_walks (calls i) (hid i)) ⟨.free,fun _ => Or.inl rfl,fun _ => .empty (fun hw => hw) rfl,
      ⟨t₀,hrow,hnone,fun _ => Or.inl hpending⟩,rfl,by simp,fun _ hd => (by cases hd),by simp⟩

omit [DecidableEq ι] [Fintype ι] [SecretHash] in
theorem exchanging_claims {strict : Prop} {ph : ι → CallbackPhase}
    (h : Standing (fun i => loginCourse id (calls i).answersError) (fun _ _ _ => True)
      (fun tr ph pd w => ∃ st, Logins id strict st tr ph pd w) tr ph g) {i : ι}
    (hi : Exchanging (g.thread i).prog) : claimers id tr = [i] := by
  obtain ⟨guard,set,k,hprog⟩ := hi
  obtain ⟨st,hlogins⟩ := h.inv
  have hat := hlogins.phase i
  have hcourse := h.course i
  rw [hprog] at hcourse
  obtain ⟨⟨y,hup,_⟩,_⟩ := hcourse
  cases hph : ph i with
  | outside =>
    rw [hph] at hup
    cases hup.1
  | holder | overtaken =>
    rw [hph] at hat
    obtain rfl := hat.held_of trivial
    exact hlogins.claimed
  | lost =>
    rw [hph] at hat
    cases st with
    | free => rcases hat with hx | hx <;> cases hx
    | _ => exact hat.elim
  | _ =>
    rw [hph] at hup
    exact hup.elim

theorem one_login_one_session (hrow : w.db (.loginTransaction id) = some t₀)
    (hpending : t₀.status = .pending) (hnone : t₀.completedSessionId = none)
    (hid : ∀ i, (calls i).transactionId = id)
    (h : Execution (fun _ _ => True) (Global.init w fun i => (calls i).program) tr g) :
    (claimers id tr).length ≤ 1 ∧
      (∀ i, Exchanging (g.thread i).prog → claimers id tr = [i]) ∧
      (∀ c ∈ tr, ∀ c' ∈ tr, ∀ d d', OpensSession c.pend d → OpensSession c'.pend d' → d = d') ∧
      (∃ t, g.world.db (.loginTransaction id) = some t ∧
        ∀ d, t.completedSessionId = some d ↔ ∃ c ∈ tr, OpensSession c.pend d) ∧
      ∀ c ∈ tr, ∀ t t' : LoginTransaction, c.before (.loginTransaction id) = some t →
        c.after (.loginTransaction id) = some t' → ∀ d, t.completedSessionId = some d →
          t'.completedSessionId = some d := by
  obtain ⟨ph,hst⟩ := logins_run False (fun _ _ k l _ _ _ _ => by
    cases k <;> cases l <;> first | trivial | exact fun hs => hs.elim) hrow hpending hnone hid h
  obtain ⟨st,hlogins⟩ := hst.inv
  refine ⟨?_,fun i hi => exchanging_claims hst hi,?_,?_,fun c hc => (hlogins.sound c hc).kept⟩
  · rw [hlogins.claimed]
    cases st <;> simp [Progress.claimers]
  · intro c hc c' hc' d d' hd hd'
    exact Option.some.inj ((hlogins.issues c hc d hd).symm.trans (hlogins.issues c' hc' d' hd'))
  · obtain ⟨t,ht,hat⟩ := hlogins.row
    refine ⟨t,ht,fun d => ⟨fun hd => hlogins.issued d ?_,?_⟩⟩
    · cases st with
      | done i e => exact hat.1.symm.trans hd
      | _ => rw [hat.1] at hd; cases hd
    · rintro ⟨c,hc,hopens⟩
      have hsession := hlogins.issues c hc d hopens
      cases st with
      | done i e => exact hat.1.trans hsession
      | _ => cases hsession

theorem outcomes_final (hrow : w.db (.loginTransaction id) = some t₀)
    (hpending : t₀.status = .pending) (hnone : t₀.completedSessionId = none)
    (hid : ∀ i, (calls i).transactionId = id)
    (h : Execution (fun g i => rejectsPending id calls g i = true)
      (Global.init w fun i => (calls i).program) tr g) :
    ∀ c ∈ tr, ∀ t t' : LoginTransaction, c.before (.loginTransaction id) = some t →
      c.after (.loginTransaction id) = some t' →
        (t.status = .completed ∨ t.status = .rejected → t'.status = t.status) ∧
        (t.status = .processing → t'.status ≠ .processing → c.thread ∈ claimers id tr) := by
  obtain ⟨ph,hst⟩ := logins_run True
    (fun _ _ _ _ _ _ hc hp => rejectsPending_fresh hc hp) hrow hpending hnone hid h
  obtain ⟨st,hlogins⟩ := hst.inv
  intro c hc t t' ht ht'
  refine ⟨(hlogins.sound c hc).final trivial t t' ht ht',fun hprocessing hne => ?_⟩
  rw [hlogins.claimed]
  exact (hlogins.sound c hc).own trivial t t' ht ht' hprocessing hne

end executions

def sampleTransaction : LoginTransaction := ⟨.login,none,.pending,none,1000,none⟩

def sampleWorld : World where
  db
    | .loginTransaction id => if id = 2 then some sampleTransaction else none
    | .deviceSession _ => none
    | .provider => none
  next := 10

theorem sample_pending : sampleWorld.db (.loginTransaction 2) = some sampleTransaction := rfl

def sampleOutcome : Outcome := ⟨none,none,true,true,true,0,none,none,false,false,none,1,false⟩

def sampleCallback (browserBound : Bool) : Callback := ⟨2,none,browserBound,true,0⟩

def steps (n : ℕ) (i : Bool) : List (Bool × Outcome) := List.replicate n (i,sampleOutcome)

abbrev statusOf (row : Option LoginTransaction) : Option LoginStatus := row.map LoginTransaction.status

def statusesOver (tr : List (Commit Bool Row)) : List (Bool × Option LoginStatus × Option LoginStatus) :=
  tr.map fun c => (c.thread,statusOf (c.before (.loginTransaction 2)),statusOf (c.after (.loginTransaction 2)))

theorem statusesOver_mem {tr : List (Commit Bool Row)} {i : Bool} {a b : LoginStatus}
    (h : (i,some a,some b) ∈ statusesOver tr) : ∃ c ∈ tr, c.thread = i ∧ ∃ t t' : LoginTransaction,
      c.before (.loginTransaction 2) = some t ∧ c.after (.loginTransaction 2) = some t' ∧
        t.status = a ∧ t'.status = b := by
  obtain ⟨c,hc,heq⟩ := List.mem_map.mp h
  simp only [Prod.mk.injEq,Option.map_eq_some_iff] at heq
  obtain ⟨hi,⟨t,ht,ha⟩,t',ht',hb⟩ := heq
  exact ⟨c,hc,hi,t,t',ht,ht',ha,hb⟩

-- Two callbacks of one browser read the pending transaction before the first of them claims it.
def duplicates : Bool → LoginCall := fun _ => .complete (sampleCallback true)

theorem duplicate_callback_gets_no_session :
    let _ := DeviceSessions.plainSecretHash
    ∃ tr g, Execution (fun _ _ => True) (Global.init sampleWorld fun i => (duplicates i).program) tr g ∧
      claimers 2 tr = [false] ∧ ∃ c ∈ tr, OpensSession c.pend 11 := by
  let _ := DeviceSessions.plainSecretHash
  have hplay : (((Global.init sampleWorld fun i => (duplicates i).program).play (fun _ _ => true)
      (steps 1 true ++ steps 11 false ++ steps 4 true)).map fun r =>
        (claimers 2 r.1,r.2.world.db (.loginTransaction 2))) =
      some ([false],some (sampleTransaction.complete 11 0)) := by decide +kernel
  obtain ⟨⟨tr,g⟩,hp,heq⟩ := Option.map_eq_some_iff.mp hplay
  obtain ⟨hclaimers,hrow⟩ := Prod.mk.inj heq
  have hrun := (Global.play_run (.refl) _ hp).execution.weaken fun _ _ _ => trivial
  rw [List.nil_append] at hrun
  obtain ⟨_,_,_,⟨t,ht,hsession⟩,_⟩ := one_login_one_session sample_pending rfl rfl (fun _ => rfl) hrun
  obtain rfl := Option.some.inj (hrow.symm.trans ht)
  exact ⟨tr,g,hrun,hclaimers,(hsession 11).mp rfl⟩

-- The second callback comes without the cookie of the browser that began the login.
def unboundDuplicate : Bool → LoginCall
  | false => .complete (sampleCallback true)
  | true => .complete (sampleCallback false)

def deniedDuplicate : Bool → LoginCall
  | false => .complete (sampleCallback true)
  | true => .providerError (sampleCallback true) 400 "provider_cancelled"

theorem stale_rejection_overwrites :
    let _ := DeviceSessions.plainSecretHash
    (∃ tr g, Execution (fun _ _ => True)
        (Global.init sampleWorld fun i => (unboundDuplicate i).program) tr g ∧
      ∃ c ∈ tr, c.thread = true ∧ ∃ t t' : LoginTransaction, c.before (.loginTransaction 2) = some t ∧
        c.after (.loginTransaction 2) = some t' ∧ t.status = .completed ∧ t'.status = .rejected) ∧
    ∃ tr g, Execution (fun _ _ => True)
        (Global.init sampleWorld fun i => (deniedDuplicate i).program) tr g ∧
      claimers 2 tr = [false] ∧ ∃ c ∈ tr, c.thread = true ∧ ∃ t t' : LoginTransaction,
        c.before (.loginTransaction 2) = some t ∧ c.after (.loginTransaction 2) = some t' ∧
          t.status = .processing ∧ t'.status = .rejected := by
  let _ := DeviceSessions.plainSecretHash
  constructor
  · have hplay : (((Global.init sampleWorld fun i => (unboundDuplicate i).program).play (fun _ _ => true)
        (steps 1 true ++ steps 11 false ++ steps 2 true)).map fun r => statusesOver r.1) =
        some [(false,some .pending,some .processing),(false,some .processing,some .completed),
          (true,some .completed,some .rejected)] := by decide +kernel
    obtain ⟨⟨tr,g⟩,hp,heq⟩ := Option.map_eq_some_iff.mp hplay
    have hrun := (Global.play_run (.refl) _ hp).execution.weaken fun _ _ _ => trivial
    rw [List.nil_append] at hrun
    exact ⟨tr,g,hrun,statusesOver_mem (by rw [heq]; simp)⟩
  · have hplay : (((Global.init sampleWorld fun i => (deniedDuplicate i).program).play (fun _ _ => true)
        (steps 3 false ++ steps 3 true)).map fun r => (claimers 2 r.1,statusesOver r.1)) =
        some ([false],[(false,some .pending,some .processing),(true,some .processing,some .rejected)]) := by
      decide +kernel
    obtain ⟨⟨tr,g⟩,hp,heq⟩ := Option.map_eq_some_iff.mp hplay
    obtain ⟨hclaimers,hstatuses⟩ := Prod.mk.inj heq
    have hrun := (Global.play_run (.refl) _ hp).execution.weaken fun _ _ _ => trivial
    rw [List.nil_append] at hrun
    exact ⟨tr,g,hrun,hclaimers,statusesOver_mem (by rw [hstatuses]; simp)⟩

theorem completed_callback_replayed :
    let _ := DeviceSessions.plainSecretHash
    ∃ tr g, Execution (fun g i => rejectsPending 2 duplicates g i = true)
        (Global.init sampleWorld fun i => (duplicates i).program) tr g ∧
      statusesOver tr = [(false,some .pending,some .processing),(false,some .processing,some .completed),
        (true,some .completed,some .completed)] ∧
      ∀ c ∈ tr, ∀ t t' : LoginTransaction, c.before (.loginTransaction 2) = some t →
        c.after (.loginTransaction 2) = some t' →
          (t.status = .completed ∨ t.status = .rejected → t'.status = t.status) ∧
          (t.status = .processing → t'.status ≠ .processing → c.thread ∈ claimers 2 tr) := by
  let _ := DeviceSessions.plainSecretHash
  have hplay : (((Global.init sampleWorld fun i => (duplicates i).program).play (rejectsPending 2 duplicates)
      (steps 11 false ++ steps 2 true)).map fun r => statusesOver r.1) =
      some [(false,some .pending,some .processing),(false,some .processing,some .completed),
        (true,some .completed,some .completed)] := by decide +kernel
  obtain ⟨⟨tr,g⟩,hp,heq⟩ := Option.map_eq_some_iff.mp hplay
  have hrun := (Global.play_run (.refl) _ hp).execution
  rw [List.nil_append] at hrun
  exact ⟨tr,g,hrun,heq,outcomes_final sample_pending rfl rfl (fun _ => rfl) hrun⟩

end AiScdc.Login
