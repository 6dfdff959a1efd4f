import AiScdc.BudgetRules

namespace AiScdc
open Transaction Finset

inductive WalletOp where
  | grant (ctx : Option AuthContext) (amountCents : ℕ)
  | reserve (ctx : Option AuthContext) (projectId taskId : Id)
  | release (cloudRunId : Id) (cloudRun : CloudRun)
  | settle (cloudRunId : Id) (cloudRun : CloudRun)

-- The caller's commit flushes the summary that the operation left on the run.
def WalletOp.program : WalletOp → Op Unit
  | .grant ctx amountCents => grantManualCredit ctx amountCents
  | .reserve ctx projectId taskId => do
    let _ ← reserveCloudRunBudget ctx projectId taskId
    commit
  | .release cloudRunId cloudRun => do
    let summarized ← releaseCloudRunReservation cloudRun
    flush (.cloudRun cloudRunId) cloudRun summarized
    commit
  | .settle cloudRunId cloudRun => do
    let summarized ← settleCloudRunBudget cloudRunId cloudRun
    flush (.cloudRun cloudRunId) cloudRun summarized
    commit

def WalletOp.granted : WalletOp → Id → ℤ
  | .grant (some ctx) amountCents, workspaceId =>
    if ctx.workspaceId = workspaceId then amountCents else 0
  | _, _ => 0

def credited (credits : Id → ℤ) (op : WalletOp) : Except Exn Unit → Id → ℤ
  | .ok _, workspaceId => credits workspaceId + op.granted workspaceId
  | .error _, workspaceId => credits workspaceId

theorem credited_ungranted {credits : Id → ℤ} {op : WalletOp}
    (h : ∀ workspaceId, op.granted workspaceId = 0) :
    credited credits op (.ok ()) = credits := by
  funext workspaceId
  rw [credited,h,add_zero]

def isLedger (k : Key) : Prop :=
  (∃ workspaceId, k = .creditWallet workspaceId) ∨ ∃ ρ, k = .budgetReservation ρ

-- A history records the credits granted; between two operations anything but the wallets and
-- the reservations may change.
inductive WalletRun : (Id → ℤ) → World → Prop
  | start {w} (h : ∀ k, isLedger k → w.db k = none) : WalletRun (fun _ => 0) w
  | op {credits w} (clock : ℕ → Time) (o : WalletOp) (h : WalletRun credits w) :
      WalletRun (credited credits o (perform clock o.program w).1) (perform clock o.program w).2
  | elsewhere {credits w w'} (h : WalletRun credits w)
      (hdb : ∀ k, isLedger k → w'.db k = w.db k) (hn : w.next ≤ w'.next) : WalletRun credits w'

def reservedShare (workspaceId : Id) (row : Option BudgetReservation) : ℤ :=
  row.elim 0 fun r =>
    if r.workspaceId = workspaceId ∧ r.status = .reserved then r.reservedCents else 0

def settledShare (workspaceId : Id) (row : Option BudgetReservation) : ℤ :=
  row.elim 0 fun r =>
    if r.workspaceId = workspaceId ∧ r.status = .settled then r.settledCents else 0

def reservedTotal (w : World) (workspaceId : Id) : ℤ :=
  ∑ ρ ∈ range w.next, reservedShare workspaceId (w.db (.budgetReservation ρ))

def settledTotal (w : World) (workspaceId : Id) : ℤ :=
  ∑ ρ ∈ range w.next, settledShare workspaceId (w.db (.budgetReservation ρ))

def heldShare (workspaceId : Id) (row : Option BudgetReservation) : ℤ :=
  reservedShare workspaceId row + settledShare workspaceId row

def heldTotal (w : World) (workspaceId : Id) : ℤ :=
  ∑ ρ ∈ range w.next, heldShare workspaceId (w.db (.budgetReservation ρ))

theorem heldTotal_eq (w : World) (workspaceId : Id) :
    heldTotal w workspaceId = reservedTotal w workspaceId + settledTotal w workspaceId := by
  simp only [heldTotal,heldShare,reservedTotal,settledTotal,sum_add_distrib]

def BudgetReservation.Capped (r : BudgetReservation) : Prop :=
  0 ≤ r.settledCents ∧ r.settledCents ≤ r.reservedCents ∧ (r.status = .released → r.settledCents = 0)

structure WalletInv (credits : Id → ℤ) (w : World) : Prop where
  bounded : ∀ ρ, w.next ≤ ρ → w.db (.budgetReservation ρ) = none
  capped : ∀ ρ r, w.db (.budgetReservation ρ) = some r → r.Capped
  conserved : ∀ workspaceId,
    balance w.db workspaceId + heldTotal w workspaceId = credits workspaceId
  nonneg : ∀ workspaceId, 0 ≤ balance w.db workspaceId

theorem sum_range_grow {n m : ℕ} (hnm : n ≤ m) {f g : ℕ → ℤ} (hfg : ∀ i, g i = f i)
    (hz : ∀ i, n ≤ i → f i = 0) : ∑ i ∈ range m, g i = ∑ i ∈ range n, f i := by
  rw [sum_congr rfl fun i _ => hfg i]
  refine (sum_subset (range_subset_range.mpr hnm) fun i _ hi => hz i ?_).symm
  simpa using hi

theorem sum_range_point {n m ρ : ℕ} (hnm : n ≤ m) (hρ : ρ < m) {f g : ℕ → ℤ}
    (hfg : ∀ i, i ≠ ρ → g i = f i) (hz : ∀ i, n ≤ i → f i = 0) :
    ∑ i ∈ range m, g i = ∑ i ∈ range n, f i + (g ρ - f ρ) := by
  have hmem : ρ ∈ range m := mem_range.mpr hρ
  have hg := add_sum_erase (range m) g hmem
  have hf := add_sum_erase (range m) f hmem
  have hrest : ∑ i ∈ (range m).erase ρ, g i = ∑ i ∈ (range m).erase ρ, f i :=
    sum_congr rfl fun i hi => hfg i (ne_of_mem_erase hi)
  have hgrow := sum_range_grow hnm (fun _ => rfl) hz
  omega

theorem heldShare_none (workspaceId : Id) : heldShare workspaceId none = 0 := rfl

theorem heldShare_other {r : BudgetReservation} {workspaceId : Id} (h : r.workspaceId ≠ workspaceId) :
    heldShare workspaceId (some r) = 0 := by
  simp [heldShare,reservedShare,settledShare,h]

section step

variable {credits : Id → ℤ} {w w' : World}

theorem balance_congr {db db' : Db} {workspaceId : Id}
    (h : db' (.creditWallet workspaceId) = db (.creditWallet workspaceId)) :
    balance db' workspaceId = balance db workspaceId := by
  rw [balance,balance,h]

theorem WalletInv.elsewhere (hI : WalletInv credits w)
    (hdb : ∀ k, isLedger k → w'.db k = w.db k) (hn : w.next ≤ w'.next) : WalletInv credits w' := by
  have hres (ρ : Id) : w'.db (.budgetReservation ρ) = w.db (.budgetReservation ρ) :=
    hdb _ (Or.inr ⟨ρ,rfl⟩)
  have hbal (ws : Id) : balance w'.db ws = balance w.db ws :=
    balance_congr (hdb _ (Or.inl ⟨ws,rfl⟩))
  refine ⟨fun ρ hρ => ?_,fun ρ r hr => hI.capped ρ r (hres ρ ▸ hr),fun ws => ?_,fun ws => ?_⟩
  · rw [hres ρ]
    exact hI.bounded ρ (hn.trans hρ)
  · rw [hbal ws,← hI.conserved ws]
    congr 1
    exact sum_range_grow hn (fun ρ => by rw [hres ρ]) fun ρ hρ => by
      rw [hI.bounded ρ hρ,heldShare_none]
  · rw [hbal ws]
    exact hI.nonneg ws

-- One reservation and one wallet change, and what the one loses the other gains.
theorem WalletInv.transfer (hI : WalletInv credits w) {ρ ws : Id} {r' : BudgetReservation}
    (hframe : ∀ k, ¬ isBudget ρ ws k → w'.db k = w.db k) (hn : w.next ≤ w'.next)
    (hρ : ρ < w'.next) (hr' : w'.db (.budgetReservation ρ) = some r') (hws : r'.workspaceId = ws)
    (hold : ∀ r, w.db (.budgetReservation ρ) = some r → r.workspaceId = ws) (hcap : r'.Capped)
    (hmove : balance w'.db ws + heldShare ws (some r') =
      balance w.db ws + heldShare ws (w.db (.budgetReservation ρ)))
    (hnonneg : 0 ≤ balance w'.db ws) : WalletInv credits w' := by
  have hres {σ : Id} (hσ : σ ≠ ρ) : w'.db (.budgetReservation σ) = w.db (.budgetReservation σ) :=
    hframe _ (by simp [isBudget,isUsage,hσ])
  have hbal {v : Id} (hv : v ≠ ws) : balance w'.db v = balance w.db v :=
    balance_congr (hframe _ (by simp [isBudget,isUsage,hv]))
  have htotal (v : Id) : heldTotal w' v = heldTotal w v +
      (heldShare v (some r') - heldShare v (w.db (.budgetReservation ρ))) := by
    rw [heldTotal,sum_range_point hn hρ (fun σ hσ => by rw [hres hσ]) fun σ hσ => by
      rw [hI.bounded σ hσ,heldShare_none]]
    rw [hr',heldTotal]
  refine ⟨fun σ hσ => ?_,fun σ r hr => ?_,fun v => ?_,fun v => ?_⟩
  · have hne : σ ≠ ρ := (lt_of_lt_of_le hρ hσ).ne'
    rw [hres hne]
    exact hI.bounded σ (hn.trans hσ)
  · by_cases hσ : σ = ρ
    · subst hσ
      rw [hr'] at hr
      cases hr
      exact hcap
    · exact hI.capped σ r (hres hσ ▸ hr)
  · rw [htotal v,← hI.conserved v]
    by_cases hv : v = ws
    · subst hv
      omega
    · have hnew : heldShare v (some r') = 0 := heldShare_other (hws ▸ Ne.symm hv)
      have hwas : heldShare v (w.db (.budgetReservation ρ)) = 0 := by
        cases hr : w.db (.budgetReservation ρ) with
        | none => rfl
        | some r => exact heldShare_other (hold r hr ▸ Ne.symm hv)
      rw [hbal hv,hnew,hwas]
      omega
  · by_cases hv : v = ws
    · exact hv ▸ hnonneg
    · rw [hbal hv]
      exact hI.nonneg v

theorem WalletInv.below (hI : WalletInv credits w) {ρ : Id} {r : BudgetReservation}
    (hr : w.db (.budgetReservation ρ) = some r) : ρ < w.next := by
  by_contra hle
  rw [hI.bounded ρ (not_lt.mp hle)] at hr
  cases hr

theorem WalletInv.summarized (hI : WalletInv credits w) {p : Pending Row} {u : World} {cloudRunId : Id}
    (hu : w = ⟨p.view u.db,u.next⟩) {loaded new : CloudRun} :
    wp alone (do
      flush (.cloudRun cloudRunId) loaded new
      commit) (fun _ _ w' => WalletInv credits w') (fun _ _ w' => WalletInv credits w') p u := by
  rw [wp_monad_bind]
  refine flush_framed fun p' hf => ?_
  rw [wp_commit]
  refine hI.elsewhere (fun k hk => ?_) (by rw [hu])
  rw [hu]
  refine hf.view fun e => ?_
  rcases hk with ⟨ws,rfl⟩ | ⟨ρ,rfl⟩ <;> cases e

theorem WalletInv.grant (hI : WalletInv credits w) (ctx : Option AuthContext) (amount : ℕ) :
    wp alone (WalletOp.grant ctx amount).program
      (fun _ _ w' => WalletInv (credited credits (.grant ctx amount) (.ok ())) w')
      (fun _ _ w' => WalletInv credits w') Pending.empty w := by
  refine grant_rule (fun _ => hI) fun ws db' hws hframe hb => ?_
  obtain ⟨c,rfl,rfl⟩ := Option.map_eq_some_iff.mp hws
  have hres (ρ : Id) : db' (.budgetReservation ρ) = w.db (.budgetReservation ρ) :=
    hframe _ (by simp [isWallet])
  have hbal {v : Id} (hv : v ≠ c.workspaceId) : balance db' v = balance w.db v :=
    balance_congr (hframe _ (by simp [isWallet,hv]))
  have hheld (v : Id) : heldTotal ⟨db',w.next⟩ v = heldTotal w v := by
    simp only [heldTotal,hres]
  refine ⟨fun ρ hρ => (hres ρ).trans (hI.bounded ρ hρ),
    fun ρ r hr => hI.capped ρ r (hres ρ ▸ hr),fun v => ?_,fun v => ?_⟩
  · have hc := hI.conserved v
    by_cases hv : v = c.workspaceId
    · subst hv
      simp only [hheld,hb,credited,WalletOp.granted,if_true]
      change balance w.db _ + _ + _ = _
      omega
    · simp only [hheld,hbal hv,credited,WalletOp.granted,if_neg (Ne.symm hv),hc,add_zero]
  · by_cases hv : v = c.workspaceId
    · subst hv
      have h0 := hI.nonneg c.workspaceId
      change balance db' c.workspaceId = balance w.db _ + _ at hb
      rw [hb]
      positivity
    · exact hbal hv ▸ hI.nonneg v

theorem WalletInv.reserve (hI : WalletInv credits w) (ctx : Option AuthContext)
    (projectId taskId : Id) :
    wp alone (WalletOp.reserve ctx projectId taskId).program
      (fun _ _ w' => WalletInv (credited credits (.reserve ctx projectId taskId) (.ok ())) w')
      (fun _ _ w' => WalletInv credits w') Pending.empty w := by
  rw [credited_ungranted fun _ => rfl,WalletOp.program,wp_monad_bind]
  refine reserve_rule (fun _ _ => hI)
    (fun hclash => (hclash (hI.bounded _ le_rfl)).elim) fun ws now p' _ hnone hlow hf hr hb => ?_
  rw [wp_commit]
  refine hI.transfer (ρ := w.next) (fun k hk => hf.view hk) (Nat.le_succ _)
    (Nat.lt_succ_self _) hr rfl (fun r hw => ?_) ⟨le_rfl,by simp [newReservation,defaultCloudRunReservationCents],fun _ => rfl⟩ ?_ ?_
  · rw [hI.bounded w.next le_rfl] at hw
    cases hw
  · rw [hI.bounded w.next le_rfl,heldShare_none]
    change balance (p'.view w.db) ws + _ = _
    rw [hb]
    simp [heldShare,reservedShare,settledShare,newReservation]
  · change 0 ≤ balance (p'.view w.db) ws
    rw [hb]
    omega

theorem WalletInv.release (hI : WalletInv credits w) (cloudRunId : Id) (cloudRun : CloudRun) :
    wp alone (WalletOp.release cloudRunId cloudRun).program
      (fun _ _ w' => WalletInv (credited credits (.release cloudRunId cloudRun) (.ok ())) w')
      (fun _ _ w' => WalletInv credits w') Pending.empty w := by
  rw [credited_ungranted fun _ => rfl,WalletOp.program,wp_monad_bind]
  refine release_rule (fun _ => hI.summarized rfl) fun ρ r now p' ha hf hr hb => ?_
  obtain ⟨_,hold,hs⟩ := activeReservation_some ha
  have hcap := hI.capped ρ r hold
  refine WalletInv.summarized (w := ⟨p'.view w.db,w.next⟩) ?_ rfl
  refine hI.transfer (fun k hk => hf.view hk) le_rfl (hI.below hold) hr rfl (fun r₀ hr₀ => ?_)
    ⟨le_rfl,hcap.1.trans hcap.2.1,fun _ => rfl⟩ ?_ ?_
  · rw [Pending.view_empty,hr₀] at hold
    cases hold
    rfl
  · rw [Pending.view_empty] at hold hb
    simp [hb,hold,heldShare,reservedShare,settledShare,released,hs]
  · have h0 := hI.nonneg r.workspaceId
    change 0 ≤ balance (p'.view w.db) r.workspaceId
    rw [hb]
    exact add_nonneg h0 (hcap.1.trans hcap.2.1)

theorem WalletInv.settle (hI : WalletInv credits w) (cloudRunId : Id) (cloudRun : CloudRun) :
    wp alone (WalletOp.settle cloudRunId cloudRun).program
      (fun _ _ w' => WalletInv (credited credits (.settle cloudRunId cloudRun) (.ok ())) w')
      (fun _ _ w' => WalletInv credits w') Pending.empty w := by
  rw [credited_ungranted fun _ => rfl,WalletOp.program,wp_monad_bind]
  refine settle_rule (fun _ => hI.summarized rfl) fun ρ r usage now p' ha hm hf hr hb => ?_
  obtain ⟨_,hold,hs⟩ := activeReservation_some ha
  have hcap := hI.capped ρ r hold
  have hbill : 0 ≤ billableCents usage r := le_min hm (hcap.1.trans hcap.2.1)
  have hle : billableCents usage r ≤ r.reservedCents := min_le_right _ _
  refine WalletInv.summarized (w := ⟨p'.view w.db,w.next⟩) ?_ rfl
  refine hI.transfer (fun k hk => hf.view hk) le_rfl (hI.below hold) hr rfl (fun r₀ hr₀ => ?_)
    ⟨hbill,hle,fun h => by simp [settled] at h⟩ ?_ ?_
  · rw [Pending.view_empty,hr₀] at hold
    cases hold
    rfl
  · rw [Pending.view_empty] at hold hb
    simp [hb,hold,heldShare,reservedShare,settledShare,settled,hs]
    omega
  · have h0 := hI.nonneg r.workspaceId
    change 0 ≤ balance (p'.view w.db) r.workspaceId
    rw [hb]
    exact add_nonneg h0 (sub_nonneg.mpr hle)

theorem WalletInv.step (hI : WalletInv credits w) (clock : ℕ → Time) (o : WalletOp) :
    WalletInv (credited credits o (perform clock o.program w).1) (perform clock o.program w).2 := by
  have hw : wp alone o.program (fun _ _ w' => WalletInv (credited credits o (.ok ())) w')
      (fun _ _ w' => WalletInv credits w') Pending.empty w := by
    cases o with
    | grant ctx amount => exact hI.grant ctx amount
    | reserve ctx projectId taskId => exact hI.reserve ctx projectId taskId
    | release cloudRunId cloudRun => exact hI.release cloudRunId cloudRun
    | settle cloudRunId cloudRun => exact hI.settle cloudRunId cloudRun
  have hp := perform_wp clock o.program (Q := fun _ => WalletInv (credited credits o (.ok ())))
    (E := fun _ => WalletInv credits) hw
  revert hp
  generalize perform clock o.program w = r
  obtain ⟨r,w'⟩ := r
  cases r <;> exact id

theorem WalletRun.inv (h : WalletRun credits w) : WalletInv credits w := by
  induction h with
  | start h =>
    have hres (ρ : Id) := h (.budgetReservation ρ) (Or.inr ⟨ρ,rfl⟩)
    have hbal (db : Db) (ws : Id) (hw : db (.creditWallet ws) = none) : balance db ws = 0 := by
      simp [balance,hw]
    refine ⟨fun ρ _ => hres ρ,fun ρ r hr => ?_,fun ws => ?_,fun ws => ?_⟩
    · rw [hres ρ] at hr
      cases hr
    · simp only [heldTotal,hres,heldShare_none,sum_const_zero,add_zero]
      exact hbal _ ws (h _ (Or.inl ⟨ws,rfl⟩))
    · exact (hbal _ ws (h _ (Or.inl ⟨ws,rfl⟩))).ge
  | op clock o _ ih => exact ih.step clock o
  | elsewhere _ hdb hn ih => exact ih.elsewhere hdb hn

end step

theorem ended_unchanged {w : World} (clock : ℕ → Time) (cloudRunId : Id) {cloudRun : CloudRun}
    (h : activeReservation w.db cloudRun = none) :
    perform clock (WalletOp.release cloudRunId cloudRun).program w = (.ok (),w) ∧
      perform clock (WalletOp.settle cloudRunId cloudRun).program w = (.ok (),w) := by
  have hidle : wp alone (do
      flush (.cloudRun cloudRunId) cloudRun cloudRun
      commit) (fun a _ u => a = () ∧ u = w) (fun _ _ _ => False) Pending.empty w := by
    rw [wp_monad_bind,wp_flush]
    exact ⟨fun _ => by rw [wp_commit]; exact ⟨rfl,rfl⟩,fun hn => (hn rfl).elim⟩
  have hnot {P : Prop} {ρ : Id} {r : BudgetReservation}
      (ha : activeReservation (Pending.empty.view w.db) cloudRun = some (ρ,r)) : P := by
    rw [Pending.view_empty,h] at ha
    cases ha
  constructor
  · refine perform_eq clock _ ?_
    rw [WalletOp.program,wp_monad_bind]
    exact release_rule (fun _ => hidle) fun ρ r now p' ha _ _ _ => hnot ha
  · refine perform_eq clock _ ?_
    rw [WalletOp.program,wp_monad_bind]
    exact settle_rule (fun _ => hidle) fun ρ r usage now p' ha _ _ _ _ => hnot ha

theorem wallet_conservation {credits : Id → ℤ} {w : World} (h : WalletRun credits w) :
    (∀ workspaceId, balance w.db workspaceId =
      credits workspaceId - reservedTotal w workspaceId - settledTotal w workspaceId) ∧
    (∀ workspaceId, 0 ≤ balance w.db workspaceId) ∧
    (∀ ρ r, w.db (.budgetReservation ρ) = some r →
      ρ < w.next ∧ 0 ≤ r.settledCents ∧ r.settledCents ≤ r.reservedCents ∧
        (r.status = .released → r.settledCents = 0)) ∧
    (∀ clock cloudRunId cloudRun ρ r, reservationOf w.db cloudRun = some (ρ,r) →
      r.status ≠ .reserved →
      perform clock (WalletOp.release cloudRunId cloudRun).program w = (.ok (),w) ∧
        perform clock (WalletOp.settle cloudRunId cloudRun).program w = (.ok (),w)) := by
  have hI := h.inv
  refine ⟨fun ws => ?_,hI.nonneg,fun ρ r hr => ⟨hI.below hr,hI.capped ρ r hr⟩,?_⟩
  · have hc := hI.conserved ws
    rw [heldTotal_eq] at hc
    omega
  · intro clock cloudRunId cloudRun ρ r hr hs
    refine ended_unchanged clock cloudRunId ?_
    simp [activeReservation,hr,Option.filter,hs]

theorem wallet_conservation_reserved :
    let w₁ := (perform (fun _ => 0) (WalletOp.grant (some ⟨1,true⟩) 150).program ⟨fun _ => none,0⟩).2
    let w₂ := (perform (fun _ => 0) (WalletOp.reserve (some ⟨1,true⟩) 2 3).program w₁).2
    reservedTotal w₂ 1 = 100 ∧ balance w₂.db 1 = 50 := by
  intro w₁ w₂
  have h := wallet_conservation (.op (fun _ => 0) (.reserve (some ⟨1,true⟩) 2 3)
    (.op (fun _ => 0) (.grant (some ⟨1,true⟩) 150) (.start (w := ⟨fun _ => none,0⟩) fun _ _ => rfl)))
  have hreserved : reservedTotal w₂ 1 = 100 := by decide
  have hsettled : settledTotal w₂ 1 = 0 := by decide
  have hb : balance w₂.db 1 = 150 - reservedTotal w₂ 1 - settledTotal w₂ 1 := h.1 1
  exact ⟨hreserved,by omega⟩

end AiScdc
