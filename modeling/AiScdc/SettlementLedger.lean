import AiScdc.MonthlySpend
import AiScdc.UsageLedger

namespace AiScdc
open Transaction

inductive LedgerOp where
  | append (ctx : Option AuthContext) (data : UsageLedgerCreate) (commitNow : Bool)
  | release (cloudRunId : Id)
  | settle (cloudRunId : Id)

-- A release or a settlement is called on the run as its session loads it.
def LedgerOp.program : LedgerOp → Op Unit
  | .append ctx data commitNow => do
    appendUsageLedgerEntry ctx data commitNow
    commit
  | .release cloudRunId => do
    match ← get (.cloudRun cloudRunId) with
    | none => pure ()
    | some cloudRun => (WalletOp.release cloudRunId cloudRun).program
  | .settle cloudRunId => do
    match ← get (.cloudRun cloudRunId) with
    | none => pure ()
    | some cloudRun => (WalletOp.settle cloudRunId cloudRun).program

-- The rows that an appended entry may take.
def isAppended (k : Key) : Prop :=
  (∃ cloudRunId t, settlementOwned t = false ∧ k = .cloudRunUsage cloudRunId t) ∨
    ∃ id, k = .workspaceUsage id

section reads

def Quiet {α : Type} (m : Op α) : Prop := Within (fun _ => False) m

theorem quiet_getOr404 (k : Key) (detail : String) : Quiet (getOr404 k detail) := by
  refine within_get fun row => ?_
  cases row <;> trivial

theorem quiet_enforce (ctx : Option AuthContext) (workspaceId : Id) (detail : String) :
    Quiet (enforceWorkspaceAccess ctx workspaceId detail) := by
  cases ctx with
  | none => trivial
  | some c =>
    unfold enforceWorkspaceAccess Quiet
    dsimp only
    split <;> trivial

theorem quiet_validateProject (ctx : Option AuthContext) (projectId : Option Id) :
    Quiet (validateProject ctx projectId) := by
  cases projectId with
  | none => trivial
  | some projectId =>
    refine Within.bind (Within.bind (quiet_getOr404 _ _) fun project => ?_) fun _ => trivial
    refine Within.bind (quiet_enforce _ _ _) fun _ => ?_
    trivial

theorem quiet_validateTask (ctx : Option AuthContext) (taskId projectId : Option Id) :
    Quiet (validateTask ctx taskId projectId) := by
  cases taskId with
  | none => trivial
  | some taskId =>
    refine Within.bind (quiet_getOr404 _ _) fun task => Within.bind (quiet_validateProject _ _) fun _ => ?_
    split <;> trivial

theorem quiet_validatePlannerRun (ctx : Option AuthContext) (plannerRunId projectId : Option Id) :
    Quiet (validatePlannerRun ctx plannerRunId projectId) := by
  cases plannerRunId with
  | none => trivial
  | some plannerRunId =>
    refine Within.bind (quiet_getOr404 _ _) fun _ => Within.bind (quiet_validateProject _ _) fun _ => ?_
    split <;> trivial

theorem quiet_validateCloudRun (ctx : Option AuthContext) (cloudRunId projectId taskId : Option Id) :
    Quiet (validateCloudRun ctx cloudRunId projectId taskId) := by
  cases cloudRunId with
  | none => trivial
  | some cloudRunId =>
    refine Within.bind (quiet_getOr404 _ _) fun _ => Within.bind (quiet_enforce _ _ _) fun _ => ?_
    split
    · trivial
    · split <;> trivial

theorem quiet_currentWorkspaceId (ctx : Option AuthContext) : Quiet (currentWorkspaceId ctx) := by
  cases ctx <;> trivial

end reads

section append

variable {p : Pending Row} {w : World}

theorem within_enterUsage {workspaceId : Id} {data : UsageLedgerCreate}
    {cloudRun : Option (Id × CloudRun)} {projectId taskId : Option Id}
    (h : cloudRun ≠ none → settlementOwned data.usageType = false) :
    Within isAppended (enterUsage workspaceId data cloudRun projectId taskId) := by
  intro createdAt
  cases cloudRun with
  | none => exact fun id => ⟨Or.inr ⟨id,rfl⟩,fun b => by cases b <;> trivial⟩
  | some entry =>
    exact ⟨Or.inl ⟨_,_,h (by simp),rfl⟩,fun b => by cases b <;> trivial⟩

-- Nothing but appended entries is different from the base, committed or pending.
structure Appending (base : World) (p : Pending Row) (w : World) : Prop where
  next : base.next ≤ w.next
  committed : ∀ k, ¬ isAppended k → w.db k = base.db k
  view : ∀ k, ¬ isAppended k → p.view w.db k = base.db k

theorem Appending.step {base : World} (h : Appending base p w) {p' : Pending Row} {w' : World}
    {F : Key → Prop} (hF : ∀ k, F k → isAppended k) (hf : Framed F p w p' w') :
    Appending base p' w' := by
  refine ⟨h.next.trans hf.drift.2,fun k hk => ?_,fun k hk => ?_⟩
  · rw [hf.drift.1]
    exact h.committed k hk
  · rw [hf.view fun hin => hk (hF k hin)]
    exact h.view k hk

theorem Appending.commit {base : World} (h : Appending base p w) :
    Appending base Pending.empty ⟨p.view w.db,w.next⟩ := ⟨h.next,h.view,h.view⟩

theorem quiet_rule {α : Type} {m : Op α} (hm : Quiet m) {base : World} (h : Appending base p w)
    {Q : OpPost α} {E : OpPost Exn} (hQ : ∀ a p' w', Appending base p' w' → Q a p' w')
    (hE : ∀ e p' w', Appending base p' w' → E e p' w') : wp alone m Q E p w :=
  wp_framed m hm (fun a p' w' hf => hQ a p' w' (h.step (fun _ => False.elim) hf))
    fun e p' w' hf => hE e p' w' (h.step (fun _ => False.elim) hf)

theorem checked_rule {base : World} (h : Appending base p w) {ctx : Option AuthContext}
    {data : UsageLedgerCreate} {commitNow : Bool} {cloudRun : Option (Id × CloudRun)}
    {projectId taskId : Option Id} (hcr : data.cloudRunId = none → cloudRun = none) :
    wp alone (do
      rejectSettlementOwnedCloudRunUsage data
      let plannerRun ← validatePlannerRun ctx data.plannerRunId projectId
      let workspaceId ← currentWorkspaceId ctx
      enterUsage workspaceId data cloudRun (projectId.or (plannerRun.map PlannerRun.projectId)) taskId
      if commitNow then commit else pure ()) (fun _ p' w' => Appending base p' w')
      (fun _ p' w' => Appending base p' w') p w := by
  rw [wp_monad_bind]
  unfold rejectSettlementOwnedCloudRunUsage
  split
  · exact h
  · rename_i hfree
    rw [wp_monad_pure,wp_monad_bind]
    refine quiet_rule (quiet_validatePlannerRun _ _ _) h (fun plannerRun p₁ w₁ h₁ => ?_) fun _ _ _ h => h
    rw [wp_monad_bind]
    refine quiet_rule (quiet_currentWorkspaceId _) h₁ (fun workspaceId p₂ w₂ h₂ => ?_) fun _ _ _ h => h
    rw [wp_monad_bind]
    refine wp_framed _ (within_enterUsage fun hne => ?_) (fun _ p₃ w₃ hf => ?_)
      fun _ _ _ hf => h₂.step (fun _ => id) hf
    · by_contra howned
      refine hfree ⟨?_,by simpa using howned⟩
      cases hid : data.cloudRunId with
      | none => exact (hne (hcr hid)).elim
      | some _ => rfl
    · have h₃ := h₂.step (fun _ => id) hf
      cases commitNow with
      | false => exact h₃
      | true => exact wp_commit.mpr h₃.commit

theorem append_rule (ctx : Option AuthContext) (data : UsageLedgerCreate) (commitNow : Bool) :
    wp alone (LedgerOp.append ctx data commitNow).program (fun _ p' w' => Appending w p' w')
      (fun _ p' w' => Appending w p' w') Pending.empty w := by
  have hstart : Appending w Pending.empty w := ⟨le_rfl,fun _ _ => rfl,fun _ _ => rfl⟩
  have happend : wp alone (appendUsageLedgerEntry ctx data commitNow)
      (fun _ p' w' => Appending w p' w') (fun _ p' w' => Appending w p' w') Pending.empty w := by
    rw [appendUsageLedgerEntry,wp_monad_bind]
    refine quiet_rule (quiet_validateProject _ _) hstart (fun _ p₁ w₁ h₁ => ?_) fun _ _ _ h => h
    rw [wp_monad_bind]
    refine quiet_rule (quiet_validateTask _ _ _) h₁ (fun task p₂ w₂ h₂ => ?_) fun _ _ _ h => h
    rw [wp_monad_bind]
    cases hid : data.cloudRunId with
    | none => exact checked_rule h₂ fun _ => rfl
    | some cloudRunId =>
      refine quiet_rule (quiet_validateCloudRun _ _ _ _) h₂ (fun cloudRun p₃ w₃ h₃ => ?_)
        fun _ _ _ h => h
      exact checked_rule h₃ fun hnone => by cases hid.symm.trans hnone
  rw [LedgerOp.program,wp_monad_bind]
  exact wp_mono _ (fun _ _ _ h => wp_commit.mpr h.commit) (fun _ _ _ h => h) happend

end append

section effects

variable {p : Pending Row} {w : World}

-- What every step keeps of the reservations, of the runs and of what settlement owns of the ledger.
structure LedgerKept (db db' : Db) : Prop where
  reservation : ∀ ρ r, db (.budgetReservation ρ) = some r →
    ∃ r', db' (.budgetReservation ρ) = some r' ∧ (r.status ≠ .reserved → r' = r)
  run : ∀ id c, db (.cloudRun id) = some c → ∃ c', db' (.cloudRun id) = some c' ∧
    c'.budgetReservationId = c.budgetReservationId ∧ (activeReservation db c = none →
      c.costSummary.status = some .settled → c'.costSummary = c.costSummary ∧
        c'.actualCostCents = c.actualCostCents)
  usage : ∀ id t, settlementOwned t = true →
    db' (.cloudRunUsage id t) = db (.cloudRunUsage id t) ∨
      ∃ c ρ r r', db (.cloudRun id) = some c ∧ activeReservation db c = some (ρ,r) ∧
        db' (.budgetReservation ρ) = some r' ∧ r'.status ≠ .reserved

theorem LedgerKept.refl (db : Db) : LedgerKept db db :=
  ⟨fun _ r hr => ⟨r,hr,fun _ => rfl⟩,fun _ c hc => ⟨c,hc,rfl,fun _ _ => ⟨rfl,rfl⟩⟩,
    fun _ _ _ => Or.inl rfl⟩

theorem Appending.kept {base : World} (h : Appending base p w) : LedgerKept base.db w.db := by
  have hsame (k : Key) (hk : ¬ isAppended k) : w.db k = base.db k := h.committed k hk
  refine ⟨fun ρ r hr => ⟨r,?_,fun _ => rfl⟩,fun id c hc => ⟨c,?_,rfl,fun _ _ => ⟨rfl,rfl⟩⟩,
    fun id t ht => Or.inl (hsame _ ?_)⟩
  · rw [hsame _ (by simp [isAppended]),hr]
  · rw [hsame _ (by simp [isAppended]),hc]
  · rintro (⟨id',t',hfree,hk⟩ | ⟨id',hk⟩)
    · obtain ⟨-,rfl⟩ := Key.cloudRunUsage.inj hk
      rw [ht] at hfree
      cases hfree
    · cases hk

-- A run's reservation has ended, and the caller's commit stores the summary.
theorem ended_kept {id ρ : Id} {c : CloudRun} {r : BudgetReservation} {base : World}
    (c' : CloudRun) (r' : BudgetReservation) (F : Key → Prop) (db' : Db) (hc : base.db (.cloudRun id) = some c) (ha : activeReservation base.db c = some (ρ,r))
    (hid : c'.budgetReservationId = c.budgetReservationId) (hr' : r'.status ≠ .reserved)
    (hrow : db' (.cloudRun id) = some c') (hres : db' (.budgetReservation ρ) = some r')
    (hF : ∀ k, F k → k = .budgetReservation ρ ∨ k = .creditWallet r.workspaceId ∨
      ∃ t, k = .cloudRunUsage id t)
    (hsame : ∀ k, ¬ F k → k ≠ .cloudRun id → db' k = base.db k) : LedgerKept base.db db' := by
  obtain ⟨_,hold,hs⟩ := activeReservation_some ha
  refine ⟨fun σ q hq => ?_,fun n d hd => ?_,fun n t ht => ?_⟩
  · by_cases hσ : σ = ρ
    · subst hσ
      refine ⟨r',hres,fun hne => ?_⟩
      rw [hq] at hold
      cases hold
      exact (hne hs).elim
    · refine ⟨q,?_,fun _ => rfl⟩
      rw [hsame _ (fun hin => ?_) (by simp),hq]
      rcases hF _ hin with h | h | ⟨t,h⟩
      · exact hσ (Key.budgetReservation.inj h)
      · cases h
      · cases h
  · by_cases hn : n = id
    · subst hn
      rw [hc] at hd
      cases hd
      exact ⟨c',hrow,hid,fun hnone => by cases ha.symm.trans hnone⟩
    · refine ⟨d,?_,rfl,fun _ _ => ⟨rfl,rfl⟩⟩
      rw [hsame _ (fun hin => ?_) (by simpa using hn),hd]
      rcases hF _ hin with h | h | ⟨t,h⟩ <;> cases h
  · by_cases hn : n = id
    · subst hn
      exact Or.inr ⟨c,ρ,r,r',hc,ha,hres,hr'⟩
    · refine Or.inl (hsame _ (fun hin => ?_) (by simp))
      rcases hF _ hin with h | h | ⟨t',h⟩
      · cases h
      · cases h
      · exact hn (Key.cloudRunUsage.inj h).1

theorem summary_rule {Q : OpPost Unit} {E : OpPost Exn} {id : Id} {c c' : CloudRun}
    (hrow : p.view w.db (.cloudRun id) = some c)
    (h : ∀ p' : Pending Row, (∀ k, k ≠ .cloudRun id → p'.view w.db k = p.view w.db k) →
      p'.view w.db (.cloudRun id) = some c' → Q () Pending.empty ⟨p'.view w.db,w.next⟩) :
    wp alone (do
      flush (.cloudRun id) c c'
      commit) Q E p w := by
  rw [wp_monad_bind]
  refine flush_current hrow fun p' hf hv => ?_
  rw [wp_commit]
  exact h p' (fun k hk => hf.view hk) hv

theorem idle_rule {id : Id} {c : CloudRun} :
    wp alone (do
      flush (.cloudRun id) c c
      commit) (fun _ _ w' => w' = w) (fun _ _ _ => False) Pending.empty w := by
  rw [wp_monad_bind,wp_flush]
  refine ⟨fun _ => ?_,fun hne => (hne rfl).elim⟩
  rw [wp_commit]
  rfl

theorem idle_kept {id : Id} {c : CloudRun} :
    wp alone (do
      flush (.cloudRun id) c c
      commit) (fun _ _ w' => LedgerKept w.db w'.db) (fun _ _ w' => LedgerKept w.db w'.db)
      Pending.empty w := by
  refine wp_mono _ (fun _ _ w' (h : w' = w) => ?_) (fun _ _ _ h => h.elim) idle_rule
  rw [h]
  exact .refl _

theorem release_kept {id : Id} :
    wp alone (LedgerOp.release id).program (fun _ _ w' => LedgerKept w.db w'.db)
      (fun _ _ w' => LedgerKept w.db w'.db) Pending.empty w := by
  rw [LedgerOp.program,wp_monad_bind]
  simp only [get,alone_select,alone_pure,Pending.view_empty]
  cases hc : w.db (.cloudRun id) with
  | none => exact .refl _
  | some c =>
    simp only [WalletOp.program,wp_monad_bind]
    refine release_exact_rule (fun _ => ?_) fun ρ r now p' ha hf hr hb => ?_
    · exact idle_kept
    · have hrow : p'.view w.db (.cloudRun id) = some c := (hf.view (by simp [isFunds])).trans hc
      refine summary_rule hrow fun p'' hrest hsum => ?_
      refine ended_kept (releasedSummary ρ r c) (released r now)
        (fun k => k = .budgetReservation ρ ∨ k = .creditWallet r.workspaceId) (p''.view w.db) hc ha rfl
        (by simp [released]) hsum ?_ (fun k hk => hk.imp_right Or.inl) fun k hk hne => ?_
      · rw [hrest _ (by simp)]
        exact hr
      · rw [hrest k hne]
        exact hf.view hk

-- The run, its reservation and its ledger after its settlement.
structure SettledExactly (id ρ : Id) (reservedCents : ℤ) (usage : List UsageMeasurement) (db : Db) :
    Prop where
  run : ∃ c, db (.cloudRun id) = some c ∧ c.budgetReservationId = some ρ ∧
    c.costSummary.status = some .settled ∧
    c.costSummary.measuredCostCents = some (measuredCents usage) ∧
    c.actualCostCents = min (measuredCents usage) reservedCents
  reservation : ∃ r, db (.budgetReservation ρ) = some r ∧ r.status = .settled ∧
    r.settledCents = min (measuredCents usage) reservedCents
  entered : ∀ m ∈ usage, ∃ e, db (.cloudRunUsage id m.usageType) = some e ∧
    e.amountCents = m.amountCents
  others : ∀ t, settlementOwned t = true → (∀ m ∈ usage, m.usageType ≠ t) →
    db (.cloudRunUsage id t) = none

theorem SettledExactly.kept {id ρ : Id} {reservedCents : ℤ} {usage : List UsageMeasurement}
    {db db' : Db} (howned : ∀ m ∈ usage, settlementOwned m.usageType = true)
    (h : SettledExactly id ρ reservedCents usage db) (hk : LedgerKept db db') :
    SettledExactly id ρ reservedCents usage db' := by
  obtain ⟨c,hc,hid,hs,hmeasured,hactual⟩ := h.run
  obtain ⟨r,hr,hsettled,hcents⟩ := h.reservation
  have hnone : activeReservation db c = none := by
    simp [activeReservation,reservationOf,hid,hr,hsettled,Option.filter]
  obtain ⟨c',hc',hid',hsame⟩ := hk.run id c hc
  obtain ⟨hsummary,hcost⟩ := hsame hnone hs
  obtain ⟨r',hr',hrsame⟩ := hk.reservation ρ r hr
  have hfinal : r' = r := hrsame (by simp [hsettled])
  have husage (t : UsageType) (ht : settlementOwned t = true) :
      db' (.cloudRunUsage id t) = db (.cloudRunUsage id t) := by
    rcases hk.usage id t ht with hsame | ⟨d,σ,q,_,hd,ha,_,_⟩
    · exact hsame
    · rw [hc] at hd
      cases hd
      cases hnone.symm.trans ha
  refine ⟨⟨c',hc',hid'.trans hid,by rw [hsummary]; exact hs,by rw [hsummary]; exact hmeasured,
    hcost.trans hactual⟩,⟨r,hfinal ▸ hr',hsettled,hcents⟩,fun m hm => ?_,fun t ht hne => ?_⟩
  · rw [husage _ (howned m hm)]
    exact h.entered m hm
  · rw [husage t ht]
    exact h.others t ht hne

theorem measured_owned {m : UsageMeasurement} {cloudRun : CloudRun} {bytes : ℤ}
    (h : m ∈ measuredUsage cloudRun bytes) : settlementOwned m.usageType = true := by
  simp only [measuredUsage,List.mem_append,List.mem_singleton] at h
  rcases h with (((rfl | h) | h) | h) | h
  · rfl
  all_goals
    split at h
    · simp only [List.mem_singleton] at h
      subst h
      rfl
    · simp at h

-- What a settlement does on a run, said once for what it keeps and for what it enters.
theorem settle_effect {id : Id} :
    wp alone (LedgerOp.settle id).program (fun _ _ w' => LedgerKept w.db w'.db ∧
      ∀ c ρ r, w.db (.cloudRun id) = some c → activeReservation w.db c = some (ρ,r) →
        (∀ t, settlementOwned t = true → w.db (.cloudRunUsage id t) = none) →
        SettledExactly id ρ r.reservedCents (usageAt w.db w.next id c) w'.db)
      (fun _ _ _ => False) Pending.empty w := by
  rw [LedgerOp.program,wp_monad_bind]
  simp only [get,alone_select,alone_pure,Pending.view_empty]
  cases hc : w.db (.cloudRun id) with
  | none => exact ⟨.refl _,fun _ _ _ h => by cases h⟩
  | some c =>
    simp only [WalletOp.program,wp_monad_bind]
    refine settle_exact_rule (fun hnone => ?_) fun ρ r now p' ha hf hset => ?_
    · refine wp_mono _ (fun _ _ w' (h : w' = w) => ?_) (fun _ _ _ h => h) idle_rule
      rw [h]
      refine ⟨.refl _,fun c' ρ r hc' ha => ?_⟩
      cases hc'
      cases hnone.symm.trans ha
    · obtain ⟨hρ,hold,hs⟩ := activeReservation_some ha
      have hrow : p'.view w.db (.cloudRun id) = some c :=
        (hf.view (by simp [isBudget,isUsage])).trans hc
      refine summary_rule hrow fun p'' hrest hsum => ?_
      have hres : p''.view w.db (.budgetReservation ρ) =
          some (settled r (billableCents (usageAt w.db w.next id c) r) now) := by
        rw [hrest _ (by simp)]
        exact hset.reservation
      refine ⟨?_,fun c' σ q hc' ha' hfree => ?_⟩
      · refine ended_kept (settledSummary ρ r (usageAt w.db w.next id c) c)
          (settled r (billableCents (usageAt w.db w.next id c) r) now)
          (fun k => k = .budgetReservation ρ ∨ k = .creditWallet r.workspaceId ∨
            ∃ t, k = .cloudRunUsage id t) (p''.view w.db) hc ha rfl (by simp [settled]) hsum hres (fun k hk => hk)
            fun k hk hne => ?_
        simp only [not_or,not_exists] at hk
        obtain ⟨hres',hwallet,husage⟩ := hk
        rw [hrest k hne]
        by_cases hu : isUsage k
        · obtain ⟨n,t,rfl⟩ := hu
          exact hset.ledger.others n t fun hn => (husage t (by rw [hn])).elim
        · exact hf.view (by simp [isBudget,hres',hwallet,hu])
      · cases hc'
        cases ha.symm.trans ha'
        refine ⟨⟨_,hsum,hρ,rfl,rfl,rfl⟩,⟨_,hres,rfl,rfl⟩,fun m hm => ?_,fun t ht hne => ?_⟩
        · obtain ⟨e,he,hamount,_⟩ := hset.ledger.entered m hm (hfree _ (measured_owned hm))
          exact ⟨e,(hrest _ (by simp)).trans he,hamount⟩
        · have hlater := (hset.ledger.others id t fun _ => hne).trans (hfree t ht)
          exact (hrest _ (by simp)).trans hlater

theorem LedgerOp.kept (clock : ℕ → Time) (o : LedgerOp) (w : World) :
    LedgerKept w.db (perform clock o.program w).2.db := by
  refine perform_inv clock o.program (I := fun w' => LedgerKept w.db w'.db) ?_
  cases o with
  | append ctx data commitNow =>
    exact wp_mono _ (fun _ _ _ h => h.kept) (fun _ _ _ h => h.kept) (append_rule ctx data commitNow)
  | release id => exact release_kept
  | settle id => exact wp_mono _ (fun _ _ _ h => h.1) (fun _ _ _ h => h.elim) settle_effect

end effects

section runs

-- Between two operations anything may change but the ledger of settlements, the reservations
-- that stand, the reservation of a run and the summary of a settled run.
inductive LedgerSteps (w : World) : World → Prop
  | refl : LedgerSteps w w
  | op {w'} (clock : ℕ → Time) (o : LedgerOp) (h : LedgerSteps w w') :
      LedgerSteps w (perform clock o.program w').2
  | elsewhere {w' w''} (h : LedgerSteps w w') (hkept : LedgerKept w'.db w''.db)
      (husage : ∀ id t, settlementOwned t = true →
        w''.db (.cloudRunUsage id t) = w'.db (.cloudRunUsage id t)) : LedgerSteps w w''

structure Unsettled (w : World) : Prop where
  usage : ∀ id t, settlementOwned t = true → w.db (.cloudRunUsage id t) = none

def EntriesEnded (db : Db) : Prop :=
  ∀ id t, settlementOwned t = true → db (.cloudRunUsage id t) ≠ none →
    ∃ c ρ r, db (.cloudRun id) = some c ∧ c.budgetReservationId = some ρ ∧
      db (.budgetReservation ρ) = some r ∧ r.status ≠ .reserved

theorem EntriesEnded.kept {db db' : Db} (h : EntriesEnded db) (hk : LedgerKept db db') :
    EntriesEnded db' := by
  intro id t ht hne
  rcases hk.usage id t ht with hsame | ⟨c,ρ,r,r',hc,ha,hr',hs'⟩
  · obtain ⟨c,ρ,r,hc,hρ,hr,hs⟩ := h id t ht (hsame ▸ hne)
    obtain ⟨c',hc',hid,_⟩ := hk.run id c hc
    obtain ⟨r',hr',hrsame⟩ := hk.reservation ρ r hr
    exact ⟨c',ρ,r',hc',hid.trans hρ,hr',by rw [hrsame hs]; exact hs⟩
  · obtain ⟨c',hc',hid,_⟩ := hk.run id c hc
    exact ⟨c',ρ,r',hc',hid.trans (activeReservation_some ha).1,hr',hs'⟩

variable {w w' w'' : World}

theorem LedgerSteps.ended (hw : Unsettled w) (h : LedgerSteps w w') : EntriesEnded w'.db := by
  induction h with
  | refl => exact fun id t ht hne => (hne (hw.usage id t ht)).elim
  | op clock o _ ih => exact ih.kept (o.kept clock _)
  | elsewhere _ hkept _ ih => exact ih.kept hkept

theorem EntriesEnded.free {db : Db} (h : EntriesEnded db) {id : Id} {c : CloudRun} {ρ : Id}
    {r : BudgetReservation} (hc : db (.cloudRun id) = some c)
    (ha : activeReservation db c = some (ρ,r)) {t : UsageType} (ht : settlementOwned t = true) :
    db (.cloudRunUsage id t) = none := by
  by_contra hne
  obtain ⟨c',ρ',r',hc',hρ',hr',hs'⟩ := h id t ht hne
  obtain ⟨hρ,hr,hs⟩ := activeReservation_some ha
  rw [hc] at hc'
  cases hc'
  rw [hρ] at hρ'
  cases hρ'
  rw [hr] at hr'
  cases hr'
  exact hs' hs

theorem SettledExactly.run_kept {id ρ : Id} {reservedCents : ℤ} {usage : List UsageMeasurement}
    (howned : ∀ m ∈ usage, settlementOwned m.usageType = true)
    (h : SettledExactly id ρ reservedCents usage w.db) (hrun : LedgerSteps w w') :
    SettledExactly id ρ reservedCents usage w'.db := by
  induction hrun with
  | refl => exact h
  | op clock o _ ih => exact ih.kept howned (o.kept clock _)
  | elsewhere _ hkept _ ih => exact ih.kept howned hkept

def entryCents (db : Db) (id : Id) (m : UsageMeasurement) : ℤ :=
  (db (.cloudRunUsage id m.usageType)).elim 0 UsageLedgerEntry.amountCents

theorem SettledExactly.total {id ρ : Id} {reservedCents : ℤ} {usage : List UsageMeasurement} {db : Db}
    (h : SettledExactly id ρ reservedCents usage db) :
    (usage.map (entryCents db id)).sum = measuredCents usage := by
  unfold measuredCents
  congr 1
  refine List.map_congr_left fun m hm => ?_
  obtain ⟨e,he,hamount⟩ := h.entered m hm
  simp only [entryCents,he,Option.elim,hamount]

-- From the settlement of a run on, its ledger, its reservation and its costs stay exact.
theorem settled_exact (hw : Unsettled w) (h : LedgerSteps w w') (clock : ℕ → Time) {id ρ : Id}
    {c : CloudRun} {r : BudgetReservation} (hc : w'.db (.cloudRun id) = some c)
    (ha : activeReservation w'.db c = some (ρ,r))
    (hlater : LedgerSteps (perform clock (LedgerOp.settle id).program w').2 w'') :
    SettledExactly id ρ r.reservedCents (usageAt w'.db w'.next id c) w''.db := by
  have hsettled : SettledExactly id ρ r.reservedCents (usageAt w'.db w'.next id c)
      (perform clock (LedgerOp.settle id).program w').2.db := by
    refine perform_inv clock _ (I := fun u => SettledExactly id ρ r.reservedCents _ u.db) ?_
    refine wp_mono _ (fun _ _ u hu => ?_) (fun _ _ _ h => h.elim) settle_effect
    exact hu.2 c ρ r hc ha fun t ht => (h.ended hw).free hc ha ht
  exact hsettled.run_kept (fun m hm => measured_owned hm) hlater

theorem append_enters_no_owned (clock : ℕ → Time) (ctx : Option AuthContext) (data : UsageLedgerCreate)
    (commitNow : Bool) (w : World) {n : Id} {t : UsageType} (ht : settlementOwned t = true) :
    (perform clock (LedgerOp.append ctx data commitNow).program w).2.db (.cloudRunUsage n t) =
      w.db (.cloudRunUsage n t) := by
  refine perform_inv clock _ (I := fun u => u.db (Key.cloudRunUsage n t) = w.db (Key.cloudRunUsage n t)) ?_
  have hnot : ¬ isAppended (Key.cloudRunUsage n t) := by
    rintro (⟨n',t',hfree,hk⟩ | ⟨n',hk⟩)
    · obtain ⟨-,rfl⟩ := Key.cloudRunUsage.inj hk
      rw [ht] at hfree
      cases hfree
    · cases hk
  exact wp_mono _ (fun _ _ _ h => h.committed _ hnot) (fun _ _ _ h => h.committed _ hnot)
    (append_rule ctx data commitNow)

theorem settlement_ledger_exact :
    (∀ {w w' w'' : World}, Unsettled w → LedgerSteps w w' → ∀ (clock : ℕ → Time) {id ρ : Id} {c : CloudRun}
        {r : BudgetReservation}, w'.db (.cloudRun id) = some c → activeReservation w'.db c = some (ρ,r) →
        LedgerSteps (perform clock (LedgerOp.settle id).program w').2 w'' →
      SettledExactly id ρ r.reservedCents (usageAt w'.db w'.next id c) w''.db ∧
        ((usageAt w'.db w'.next id c).map UsageMeasurement.usageType).Nodup ∧
        ((usageAt w'.db w'.next id c).map (entryCents w''.db id)).sum =
          measuredCents (usageAt w'.db w'.next id c)) ∧
    ∀ (w : World) (clock : ℕ → Time) (ctx : Option AuthContext) (data : UsageLedgerCreate) (commitNow : Bool)
        (n : Id) (t : UsageType), settlementOwned t = true →
      (perform clock (LedgerOp.append ctx data commitNow).program w).2.db (.cloudRunUsage n t) =
        w.db (.cloudRunUsage n t) := by
  constructor
  · intro w w' w'' hw h clock id ρ c r hc ha hlater
    have hlast := settled_exact hw h clock hc ha hlater
    exact ⟨hlast,usageAt_types _ _ _ _,hlast.total⟩
  · intro w clock ctx data commitNow n t ht
    exact append_enters_no_owned clock ctx data commitNow w ht

end runs

def reservedWorld : World where
  db
    | .cloudRun 5 => some reservedRun
    | .budgetReservation 0 => some (newReservation 1 2 3 0)
    | _ => none
  next := 6

theorem settlement_ledger_exact_reserved :
    ∃ e, (perform (fun _ => 0) (LedgerOp.settle 5).program reservedWorld).2.db
      (.cloudRunUsage 5 .workerSubmissions) = some e ∧ e.amountCents = workerSubmissionCents := by
  have hrun : reservedWorld.db (.cloudRun 5) = some reservedRun := rfl
  have hactive : activeReservation reservedWorld.db reservedRun = some (0,newReservation 1 2 3 0) := rfl
  have h := settlement_ledger_exact.1 ⟨fun _ _ _ => rfl⟩ .refl (fun _ => 0) hrun hactive .refl
  exact h.1.entered ⟨.workerSubmissions,1,"submission",workerSubmissionCents⟩ (by decide +kernel)

end AiScdc
