import AiScdc.AuditRetention.Retention

namespace AiScdc.AuditRetention
open Transaction

section executions

variable {ι : Type} [DecidableEq ι] [Fintype ι] {calls : ι → Sweep} {w : World}
  {tr pre post : List (Commit ι Row)} {g : Global ι Row Unit Exn} {c : Commit ι Row}

-- The claim that stands at the commit is the one this call has committed.
def ClaimStands (now : Time) (pre : List (Commit ι Row)) (c : Commit ι Row) : Prop :=
  ∃ τ, ∃ s : AuditRetentionState, c.before .state = some s ∧ s.claimToken = some τ ∧
    ∃ d ∈ pre, ClaimedBy now c.thread τ d

-- Rows of the kind are left only where they were inserted once a statement after the claim had begun.
def Leaves (now : Time) (pre : List (Commit ι Row)) (c : Commit ι Row) (table : AuditTable)
    (old : AuditEvent → Prop) : Prop :=
  ∃ tr₀ tr₁, pre = tr₀ ++ tr₁ ∧ (∃ d ∈ tr₀, ∃ τ, ClaimedBy now c.thread τ d) ∧
    ∀ id, ∀ e : AuditEvent, c.after (.event table id) = some e → old e → InsertedIn tr₁ (.event table id)

structure CompletedSweep (now : Time) (pre : List (Commit ι Row)) (c : Commit ι Row) : Prop where
  claim : ClaimStands now pre c
  core : ∀ table, Leaves now pre c table fun e => e.createdAt < now - auditCoreRetention
  details : Leaves now pre c .identity fun e => e.createdAt < now - identityDetailRetention ∧
    (e.clientIpAddress.isSome ∨ e.userAgent.isSome)
  younger : ∀ table id, ∀ e : AuditEvent, c.before (.event table id) = some e →
    c.after (.event table id) = some e ∨
      (e.createdAt < now - auditCoreRetention ∧ c.after (.event table id) = none) ∨
      table = .identity ∧ e.createdAt < now - identityDetailRetention ∧
        c.after (.event table id) = some e.withoutDetails

omit [DecidableEq ι] [Fintype ι] in
theorem Completed.sweep {now : Time} (h : Completed now pre c) : CompletedSweep now pre c where
  claim := h.claim
  core table := by
    obtain ⟨tr₀,tr₁,heq,hclaim,hcleared⟩ := h.swept (.delete table)
    exact ⟨tr₀,tr₁,heq,hclaim,fun id e he hold => hcleared id ⟨rfl,e,he,decide_eq_true hold⟩⟩
  details := by
    obtain ⟨tr₀,tr₁,heq,hclaim,hcleared⟩ := h.swept .details
    refine ⟨tr₀,tr₁,heq,hclaim,fun id e he hold => hcleared id ⟨rfl,e,he,?_⟩⟩
    simpa [Cleanup.applies] using hold
  younger table id e he := by
    have hne : c.before (.event table id) ≠ none := by
      rw [he]
      exact Option.some_ne_none e
    rcases h.others table id hne with heq | ⟨e',he',hages⟩
    · exact Or.inl (heq.trans he)
    · obtain rfl := Option.some.inj (he.symm.trans he')
      exact Or.inr hages

theorem sweeps_run (hnumbered : ∀ t id, w.db (.event t id) ≠ none → id < w.next)
    (h : Execution (fun _ _ => True)
      (Global.init w fun i => runScheduledAuditRetentionIfDue (calls i)) tr g) :
    ∃ ph, Standing (fun i => sweepCourse (calls i).now) (fun _ _ _ => True)
      (fun tr ph pd w' => Sweeps (fun i => (calls i).now) w.db tr ph pd w') tr ph g := by
  have hprog (i : ι) : Writes (sweepCourse (calls i).now) .arriving
      (runScheduledAuditRetentionIfDue (calls i)) (fun _ _ => True) fun _ _ => True := walks_scheduled (calls i)
  refine h.standing (sweeps_annotated _ w.db) (fun _ _ _ _ _ _ _ _ _ => trivial) hprog ?_
  have hlast : (history (ι := ι) w.db []) = (lastCompleted w.db).toList := List.append_nil _
  refine ⟨fun i => ?_,fun _ _ _ hτ => (by cases hτ),fun _ _ hτ => (by cases hτ),
    fun _ _ _ hτ => (by cases hτ),hnumbered,?_,fun a ha => ?_,fun pre c post heq => ?_⟩
  · exact .empty (fun hx => hx) (fun _ _ hτ => by cases hτ) (fun _ hτ => by cases hτ) fun _ hd => by cases hd
  · rw [hlast]
    cases lastCompleted w.db with
    | none => exact .nil
    | some a => exact List.pairwise_singleton _ _
  · rw [hlast,Option.mem_toList] at ha
    obtain ⟨s,hs,hcompleted⟩ := Option.bind_eq_some_iff.mp ha
    exact ⟨s,a,hs,hcompleted,le_refl a⟩
  · exact absurd heq (by simp)

theorem retention_fenced (hnumbered : ∀ t id, w.db (.event t id) ≠ none → id < w.next)
    (h : Execution (fun _ _ => True)
      (Global.init w fun i => runScheduledAuditRetentionIfDue (calls i)) tr g) :
    (history w.db tr).Pairwise (fun a b => a + auditCleanupInterval ≤ b) ∧
      ∀ pre c post, tr = pre ++ c :: post →
        (∀ t id, c.before (.event t id) ≠ none → c.after (.event t id) ≠ c.before (.event t id) →
          completion c = some (calls c.thread).now) ∧
        ∀ t, completion c = some t → t = (calls c.thread).now ∧ CompletedSweep t pre c := by
  obtain ⟨ph,hst⟩ := sweeps_run hnumbered h
  refine ⟨hst.inv.spaced,fun pre c post heq => ?_⟩
  have hsound := hst.inv.sound pre c post heq
  refine ⟨hsound.changes,fun t ht => ?_⟩
  obtain ⟨rfl,hcompleted⟩ := hsound.completes t ht
  exact ⟨rfl,hcompleted.sweep⟩

end executions

def day : Time := 24 * 60 * 60 * 1000000

def sampleWorld : World where
  db
    | .state => none
    | .event table id => if table = .identity ∧ id < 2 then
        some ⟨if id = 0 then 0 else 399 * day,some "192.0.2.1",none,"login"⟩ else none
  next := 2

theorem sample_numbered : ∀ t id, sampleWorld.db (.event t id) ≠ none → id < sampleWorld.next := by
  intro t id hne
  by_cases hid : t = .identity ∧ id < 2
  · exact hid.2
  · exact (hne (if_neg hid)).elim

-- The second call takes over the claim of the first, which sweeps only afterwards.
def takeover : Bool → Sweep
  | false => ⟨400 * day,none⟩
  | true => ⟨400 * day + 2 * auditCleanupClaimTimeout,none⟩

def steps (n : ℕ) (i : Bool) : List (Bool × Unit) := List.replicate n (i,())

theorem overtaken_sweep_deletes_nothing :
    ∃ tr g, Execution (fun _ _ => True)
        (Global.init sampleWorld fun i => runScheduledAuditRetentionIfDue (takeover i)) tr g ∧
      history sampleWorld.db tr = [400 * day + 2 * auditCleanupClaimTimeout] ∧
      g.world.db (.event .identity 0) = none ∧
      ∃ pre c post, tr = pre ++ c :: post ∧ CompletedSweep (400 * day + 2 * auditCleanupClaimTimeout) pre c := by
  have hplay : ((Global.init sampleWorld fun i => runScheduledAuditRetentionIfDue (takeover i)).play
      (fun _ _ => true) (steps 6 false ++ steps 40 true ++ steps 40 false)).map (fun r =>
        (history sampleWorld.db r.1,r.2.world.db (.event .identity 0))) =
      some ([400 * day + 2 * auditCleanupClaimTimeout],none) := by decide +kernel
  obtain ⟨⟨tr,g⟩,hp,heq⟩ := Option.map_eq_some_iff.mp hplay
  obtain ⟨hhistory,hdeleted⟩ := Prod.mk.inj heq
  have hrun := (Global.play_run (.refl) _ hp).execution.weaken fun _ _ _ => trivial
  rw [List.nil_append] at hrun
  have hlast : 400 * day + 2 * auditCleanupClaimTimeout ∈ history sampleWorld.db tr := by
    rw [hhistory]
    exact List.mem_singleton_self _
  obtain ⟨c,hc,hcompletion⟩ := List.mem_filterMap.mp hlast
  obtain ⟨pre,post,rfl⟩ := List.append_of_mem hc
  have hfenced := (retention_fenced sample_numbered hrun).2 pre c post rfl
  exact ⟨_,g,hrun,hhistory,hdeleted,pre,c,post,rfl,(hfenced.2 _ hcompletion).2⟩

end AiScdc.AuditRetention
