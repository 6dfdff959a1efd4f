import AiScdc.Wallet
import AiScdc.Transaction.Interleaving

namespace AiScdc
open Transaction

def endedDelta (cloudRun : CloudRun) (workspaceId : Id) (before after : Db) : ℤ :=
  match cloudRun.budgetReservationId with
  | none => 0
  | some ρ => heldShare workspaceId (before (.budgetReservation ρ)) -
      heldShare workspaceId (after (.budgetReservation ρ))

def WalletOp.delta (op : WalletOp) (workspaceId : Id) (before after : Db) : ℤ :=
  match op with
  | .grant _ _ => op.granted workspaceId
  | .reserve none _ _ => 0
  | .reserve (some ctx) _ _ =>
    if ctx.workspaceId = workspaceId then -defaultCloudRunReservationCents else 0
  | .release _ cloudRun => endedDelta cloudRun workspaceId before after
  | .settle _ cloudRun => endedDelta cloudRun workspaceId before after

-- An UPDATE that writes the balance finds the balance its transaction has read.
def balanceFresh : ∀ k : Key, Row k → Row k → Row k → Bool
  | .creditWallet _, some l, some n, some c =>
    n.balanceCents = l.balanceCents || c.balanceCents = l.balanceCents
  | _, _, _, _ => true

def walletFresh {ι : Type} (g : Global ι Row Time Exn) (i : ι) : Bool :=
  match (g.thread i).prog with
  | .flush key l n _ => balanceFresh key l n (g.view i key)
  | _ => true

structure BudgetReservation.Continues (r r' : BudgetReservation) : Prop where
  workspaceId : r'.workspaceId = r.workspaceId
  reservedCents : r'.reservedCents = r.reservedCents
  ended : r.status ≠ .reserved → r' = r

def keeps (db db' : Db) : Prop :=
  ∀ ρ r, db (.budgetReservation ρ) = some r →
    ∃ r', db' (.budgetReservation ρ) = some r' ∧ r.Continues r'

structure WalletCommit (op : WalletOp) (db db' : Db) : Prop where
  moved : ∀ ws, db (.creditWallet ws) ≠ none →
    db' (.creditWallet ws) ≠ none ∧ balance db' ws = balance db ws + op.delta ws db db'
  keeps : keeps db db'

def race (op : WalletOp) : Discipline Row where
  rely w w' := keeps w.db w'.db
  guar p db := WalletCommit op db (p.view db)
  fresh k l n c := balanceFresh k l n c = true

theorem keeps_refl (db : Db) : keeps db db :=
  fun _ r hr => ⟨r,hr,rfl,rfl,fun _ => rfl⟩

theorem keeps_trans {a b c : Db} (hab : keeps a b) (hbc : keeps b c) : keeps a c := by
  intro ρ r hr
  obtain ⟨r₁,hr₁,h₁⟩ := hab ρ r hr
  obtain ⟨r₂,hr₂,h₂⟩ := hbc ρ r₁ hr₁
  refine ⟨r₂,hr₂,h₂.workspaceId.trans h₁.workspaceId,h₂.reservedCents.trans h₁.reservedCents,?_⟩
  intro hs
  have heq := h₁.ended hs
  subst heq
  exact h₂.ended hs

variable {op : WalletOp} {p p' : Pending Row} {w w' : World}

def stillReserved (w w' : World) : Prop := keeps w.db w'.db

theorem drift_race (op : WalletOp) : Drift (race op) stillReserved where
  refl w := keeps_refl w.db
  trans hab hbc := keeps_trans hab hbc
  rely h := h
  bump w := keeps_refl w.db

abbrev Raced (F : Key → Prop) : Pending Row → World → Pending Row → World → Prop :=
  Evolved stillReserved F

theorem Raced.trans {F : Key → Prop} {p'' : Pending Row} {w'' : World} (h : Raced F p w p' w')
    (h' : Raced F p' w' p'' w'') : Raced F p w p'' w'' :=
  Evolved.trans (drift_race (.grant none 0)) h h'

-- What the transaction will add to the balance when it commits.
def Moves (p : Pending Row) (w : World) (ws : Id) (d : ℤ) : Prop :=
  match p (.creditWallet ws) with
  | none => d = 0
  | some write => ∀ c, w.db (.creditWallet ws) = some c →
      ∃ n : CreditWallet, write.value = some n ∧ n.balanceCents = c.balanceCents + d

theorem Moves.evolve {F : Key → Prop} {ws : Id} {d : ℤ} (h : Moves p w ws d)
    (he : Raced F p w p' w') (hF : ¬ F (.creditWallet ws)) : Moves p' w' ws d := by
  unfold Moves at h ⊢
  rw [he.same _ hF]
  cases hp : p (.creditWallet ws) with
  | none => simpa [hp] using h
  | some write =>
    simp only [hp] at h
    intro c hc
    rw [(he.held _ (by simp [hp])).2] at hc
    exact h c hc

theorem Moves.commit {ws : Id} {d : ℤ} (h : Moves p w ws d) (hw : w.db (.creditWallet ws) ≠ none) :
    p.view w.db (.creditWallet ws) ≠ none ∧ balance (p.view w.db) ws = balance w.db ws + d := by
  obtain ⟨c,hc⟩ := Option.ne_none_iff_exists'.mp hw
  unfold Moves at h
  cases hp : p (.creditWallet ws) with
  | none =>
    simp only [hp] at h
    have hv := Pending.view_of_none hp w.db
    exact ⟨hv ▸ hw,by simp [balance,hv,h]⟩
  | some write =>
    simp only [hp] at h
    obtain ⟨n,hn,hb⟩ := h c hc
    have hv := (Pending.view_of_some hp w.db).trans hn
    exact ⟨by simp [hv],by simp [balance,hv,hc,hb]⟩

-- The wallet row is untouched, or this transaction has created it.
def Unmoved (p : Pending Row) (w : World) (ws : Id) : Prop :=
  p (.creditWallet ws) = none ∨ (p (.creditWallet ws) ≠ none ∧ w.db (.creditWallet ws) = none)

theorem flush_race {Q : OpPost Unit} {ws : Id} {wallet new : CreditWallet} {d : ℤ}
    (hp : Unmoved p w ws) (hd : new.balanceCents = wallet.balanceCents + d)
    (h : ∀ p' w', Raced (isWallet ws) p w p' w' → Moves p' w' ws d → Q () p' w') :
    wp (race op) (flush (.creditWallet ws) wallet new) Q (fun _ _ _ => True) p w := by
  refine ⟨fun heq => h p w (Evolved.still (drift_race op)) ?_,fun hne w' he hf => ?_⟩
  · cases heq
    have hd0 : d = 0 := by omega
    rcases hp with hp | ⟨hp,hw⟩
    · simp [Moves,hp,hd0]
    · obtain ⟨write,hwr⟩ := Option.ne_none_iff_exists'.mp hp
      simp [Moves,hwr,hw]
  · refine h _ w' ((Evolved.env (drift_race op) he).trans (drift_race op)
      (Evolved.put (drift_race op) _ _ rfl)) ?_
    simp only [Moves,Pending.put_self]
    intro c hc
    rcases hp with hp | ⟨hp,hw⟩
    · rw [Pending.view_of_none hp,hc] at hf ⊢
      refine ⟨wallet.flush new c,rfl,?_⟩
      change pick wallet.balanceCents new.balanceCents c.balanceCents = _
      by_cases hb : new.balanceCents = wallet.balanceCents
      · rw [hb,pick_same]
        omega
      · have hsame : c.balanceCents = wallet.balanceCents := by
          simpa [race,balanceFresh,hb] using hf
        rw [pick_of_ne _ hb,hd,hsame]
    · rw [he.2 _ hp,hw] at hc
      cases hc

theorem insert_race {Q : OpPost Unit} {k : Key} {row : k.Entity} (hp : p k = none)
    (h : ∀ w', Raced (fun _ => False) p w p w' → w'.db k = none →
      Q () (p.put k none (some row)) w') :
    wp (race op) (insert k row) Q (fun _ _ _ => True) p w := by
  rw [insert,wp_monad_bind]
  intro w' he
  refine ⟨fun hg => ?_,fun _ => trivial⟩
  rw [Pending.view_of_none hp,Option.isNone_iff_eq_none] at hg
  have hq := h w' (Evolved.env (drift_race op) he) hg
  rw [hg]
  exact hq

theorem getOrCreateWallet_race {Q : OpPost CreditWallet} {ws : Id}
    (hp : p (.creditWallet ws) = none)
    (h : ∀ wallet p' w', Raced (isWallet ws) p w p' w' → Unmoved p' w' ws → Q wallet p' w') :
    wp (race op) (getOrCreateWalletForScope ws) Q (fun _ _ _ => True) p w := by
  rw [getOrCreateWalletForScope,wp_monad_bind]
  refine (wp_get (.creditWallet ws)).mpr fun w₁ he₁ => ?_
  have h₁ : Raced (isWallet ws) p w p w₁ := Evolved.env (drift_race op) he₁
  cases hv : p.view w₁.db (.creditWallet ws) with
  | some wallet => exact h wallet p w₁ h₁ (Or.inl hp)
  | none =>
    simp only [wp_monad_bind,wp_utcNow]
    intro t
    refine insert_race hp fun w₂ he₂ hw₂ => ?_
    have h₂ := h₁.trans (he₂.mono fun _ => False.elim)
    exact h _ _ w₂ (h₂.trans (Evolved.put (drift_race op) _ _ rfl))
      (Or.inr ⟨by simp [Pending.put_self],hw₂⟩)

theorem refund_race {Q : OpPost Unit} {r : BudgetReservation} {cents : ℤ}
    (hp : p (.creditWallet r.workspaceId) = none)
    (h : ∀ p' w', Raced (isWallet r.workspaceId) p w p' w' →
      Moves p' w' r.workspaceId cents → Q () p' w') :
    wp (race op) (refund r cents) Q (fun _ _ _ => True) p w := by
  rw [refund,wp_monad_bind]
  refine getOrCreateWallet_race hp fun wallet p₁ w₁ h₁ hu => ?_
  rw [wp_monad_bind,wp_utcNow]
  intro t
  exact flush_race hu rfl fun p₂ w₂ h₂ hm => h p₂ w₂ (h₁.trans h₂) hm

theorem activeReservation_race {Q : OpPost (Option (Id × BudgetReservation))} {cloudRun : CloudRun}
    (hidle : ∀ w', Q none Pending.empty w')
    (hact : ∀ ρ r w', cloudRun.budgetReservationId = some ρ → w'.db (.budgetReservation ρ) = some r →
      Q (some (ρ,r)) Pending.empty w') :
    wp (race op) (activeReservationForCloudRun cloudRun) Q (fun _ _ _ => True) Pending.empty w := by
  unfold activeReservationForCloudRun
  cases hρ : cloudRun.budgetReservationId with
  | none => exact hidle w
  | some ρ =>
    simp only [wp_monad_bind]
    refine (wp_get (.budgetReservation ρ)).mpr fun w₁ _ => ?_
    rw [Pending.view_empty]
    cases hr : w₁.db (.budgetReservation ρ) with
    | none => exact hidle w₁
    | some r =>
      by_cases hs : r.status = .reserved
      · simp only [hs,if_true]
        exact hact ρ r w₁ hρ hr
      · simp only [hs,if_false]
        exact hidle w₁

theorem transition_race {Q : OpPost Bool} {ρ : Id} {status : BudgetReservationStatus} {cents : ℤ}
    {now : Time} (hfail : ∀ w', Q false Pending.empty w')
    (hok : ∀ row w', keeps w.db w'.db → w'.db (.budgetReservation ρ) = some row →
      row.status = .reserved → Q true (Pending.empty.put (.budgetReservation ρ)
        (w'.db (.budgetReservation ρ)) (some { row with
          status, settledCents := cents, settledAt := some now, updatedAt := now })) w') :
    wp (race op) (transitionReservedReservation ρ status cents now) Q (fun _ _ _ => True)
      Pending.empty w := by
  intro w' he
  refine ⟨fun hg => ?_,fun _ => hfail w'⟩
  cases hr : w'.db (.budgetReservation ρ) with
  | none => simp [hr] at hg
  | some row =>
    have hs : row.status = .reserved := by simpa [hr] using hg
    have hq := hok row w' he.1 hr hs
    rw [Pending.view_empty,hr] at *
    exact hq

def isSummary (cloudRunId : Id) (k : Key) : Prop := k = .cloudRun cloudRunId

theorem summarized_race {cloudRunId : Id} {loaded new : CloudRun}
    (h : ∀ p' w', Raced (isSummary cloudRunId) p w p' w' → WalletCommit op w'.db (p'.view w'.db)) :
    wp (race op) (do
      flush (.cloudRun cloudRunId) loaded new
      commit) (fun _ _ _ => True) (fun _ _ _ => True) p w := by
  rw [wp_monad_bind]
  refine wp_within (drift_race op) (F := isSummary cloudRunId) _ ⟨rfl,trivial⟩
    (fun _ p₁ w₁ h₁ => ?_) (fun _ _ _ _ => trivial)
  intro w₂ he₂
  exact ⟨h p₁ w₂ (Raced.trans h₁ (Evolved.env (drift_race op) he₂)),trivial⟩

theorem idle_commit {cloudRunId : Id} {cloudRun : CloudRun}
    (hop : ∀ ws before after, op.delta ws before after = endedDelta cloudRun ws before after)
    (he : Raced (isSummary cloudRunId) Pending.empty w p' w') :
    WalletCommit op w'.db (p'.view w'.db) := by
  have hsame {k : Key} (hk : ¬ isSummary cloudRunId k) : p'.view w'.db k = w'.db k :=
    Pending.view_of_none (he.same k hk) _
  have hw (ws : Id) := hsame (k := .creditWallet ws) (by simp [isSummary])
  have hr (ρ : Id) := hsame (k := .budgetReservation ρ) (by simp [isSummary])
  refine ⟨fun ws hex => ⟨by rwa [hw ws],?_⟩,fun ρ r hρ => ⟨r,by rwa [hr ρ],rfl,rfl,fun _ => rfl⟩⟩
  rw [hop,endedDelta,balance_congr (hw ws)]
  cases cloudRun.budgetReservationId with
  | none => simp
  | some ρ => simp [hr ρ]

theorem ended_commit {cloudRunId : Id} {cloudRun : CloudRun} {ρ : Id} {row v : BudgetReservation}
    (hop : ∀ ws before after, op.delta ws before after = endedDelta cloudRun ws before after)
    (hρ : cloudRun.budgetReservationId = some ρ) (hrow : w.db (.budgetReservation ρ) = some row)
    (hp : p = Pending.empty.put (.budgetReservation ρ) (w.db (.budgetReservation ρ)) (some v))
    (hcont : row.Continues v)
    (he : Raced (fun k => isWallet row.workspaceId k ∨ isUsage k ∨ isSummary cloudRunId k) p w p' w')
    (hm : Moves p' w' row.workspaceId
      (heldShare row.workspaceId (some row) - heldShare row.workspaceId (some v))) :
    WalletCommit op w'.db (p'.view w'.db) := by
  have hat : p (.budgetReservation ρ) = some ⟨some row,some v⟩ := by
    rw [hp,Pending.put_self,hrow]
    rfl
  have hbefore : w'.db (.budgetReservation ρ) = some row :=
    (he.held _ (by simp [hat])).2.trans hrow
  have hafter : p'.view w'.db (.budgetReservation ρ) = some v :=
    Pending.view_of_some ((he.same _ (by simp [isWallet,isUsage,isSummary])).trans hat) _
  have hfree {k : Key} (hk : k ≠ .budgetReservation ρ) : p k = none := by
    rw [hp,Pending.put_ne _ _ _ hk,Pending.empty_apply]
  have hother {σ : Id} (hσ : σ ≠ ρ) :
      p'.view w'.db (.budgetReservation σ) = w'.db (.budgetReservation σ) := by
    refine Pending.view_of_none ((he.same _ (by simp [isWallet,isUsage,isSummary])).trans ?_) _
    exact hfree (by simpa using hσ)
  have hdelta (ws : Id) : op.delta ws w'.db (p'.view w'.db) =
      heldShare ws (some row) - heldShare ws (some v) := by
    simp only [hop,endedDelta,hρ,hbefore,hafter]
  refine ⟨fun ws hex => ?_,fun σ r hr => ?_⟩
  · rw [hdelta]
    refine Moves.commit ?_ hex
    by_cases hws : ws = row.workspaceId
    · subst hws
      exact hm
    · have hnone : p' (.creditWallet ws) = none :=
        (he.same _ (by simp [isWallet,isUsage,isSummary,hws])).trans (hfree (by simp))
      have hrow₀ : heldShare ws (some row) = 0 := heldShare_other (Ne.symm hws)
      have hrow₁ : heldShare ws (some v) = 0 :=
        heldShare_other (hcont.workspaceId.symm ▸ Ne.symm hws)
      simp [Moves,hnone,hrow₀,hrow₁]
  · by_cases hσ : σ = ρ
    · subst hσ
      rw [hbefore] at hr
      cases hr
      exact ⟨v,hafter,hcont⟩
    · exact ⟨r,(hother hσ).trans hr,rfl,rfl,fun _ => rfl⟩

theorem release_race (cloudRunId : Id) (cloudRun : CloudRun) :
    wp (race (.release cloudRunId cloudRun)) (WalletOp.release cloudRunId cloudRun).program
      (fun _ _ _ => True) (fun _ _ _ => True) Pending.empty w := by
  have hidle (w : World) : wp (race (.release cloudRunId cloudRun)) (do
      flush (.cloudRun cloudRunId) cloudRun cloudRun
      commit) (fun _ _ _ => True) (fun _ _ _ => True) Pending.empty w :=
    summarized_race fun p' w' h => idle_commit (fun _ _ _ => rfl) h
  simp only [WalletOp.program,releaseCloudRunReservation,wp_monad_bind]
  refine activeReservation_race (fun w₁ => hidle w₁) fun ρ r w₁ hρ hr => ?_
  simp only [wp_monad_bind,wp_utcNow]
  intro now
  refine transition_race (fun w₂ => hidle w₂) fun row w₂ hkeep hrow hs => ?_
  obtain ⟨row₂,hrow₂,hcont⟩ := hkeep ρ r hr
  rw [hrow] at hrow₂
  cases hrow₂
  simp only [if_true,wp_monad_bind]
  refine refund_race ?_ fun p₃ w₃ h₃ hm => ?_
  · rw [Pending.put_ne _ _ _ (by simp),Pending.empty_apply]
  refine summarized_race fun p₄ w₄ h₄ => ?_
  have h₂₃ := h₃.mono (G := fun k => isWallet row.workspaceId k ∨ isUsage k ∨ isSummary cloudRunId k)
    fun k hk => Or.inl (hcont.workspaceId ▸ hk)
  refine ended_commit (v := released row now) (fun _ _ _ => rfl) hρ hrow rfl
    ⟨rfl,rfl,fun hne => (hne hs).elim⟩
    (Raced.trans h₂₃ (h₄.mono fun k hk => Or.inr (Or.inr hk))) ?_
  have hm₄ := hm.evolve h₄ (by simp [isSummary])
  rw [← hcont.workspaceId,← hcont.reservedCents] at hm₄
  simpa [heldShare,reservedShare,settledShare,released,hs] using hm₄

theorem within_appendAllUsage (cloudRunId : Id) (cloudRun : CloudRun) (usage : List UsageMeasurement) :
    Within isUsage (appendAllUsage cloudRunId cloudRun usage) := by
  induction usage with
  | nil => trivial
  | cons m ms ih =>
    refine Within.bind (within_get fun row => ?_) fun _ => ih
    cases row with
    | some entry => trivial
    | none => exact fun t => ⟨⟨_,_,rfl⟩,fun b => by cases b <;> trivial⟩

theorem settle_race (cloudRunId : Id) (cloudRun : CloudRun) :
    wp (race (.settle cloudRunId cloudRun)) (WalletOp.settle cloudRunId cloudRun).program
      (fun _ _ _ => True) (fun _ _ _ => True) Pending.empty w := by
  have hidle (w : World) : wp (race (.settle cloudRunId cloudRun)) (do
      flush (.cloudRun cloudRunId) cloudRun cloudRun
      commit) (fun _ _ _ => True) (fun _ _ _ => True) Pending.empty w :=
    summarized_race fun p' w' h => idle_commit (fun _ _ _ => rfl) h
  simp only [WalletOp.program,settleCloudRunBudget,wp_monad_bind]
  refine activeReservation_race (fun w₁ => hidle w₁) fun ρ r w₁ hρ hr => ?_
  simp only [wp_monad_bind]
  refine wp_within (drift_race _) (F := fun _ => False) _ ?_ (fun usage p₂ w₂ h₂ => ?_)
    (fun _ _ _ _ => trivial)
  · exact fun _ _ => trivial
  have hp₂ : p₂ = Pending.empty := funext fun k => h₂.same k id
  subst hp₂
  rw [wp_monad_bind,wp_utcNow]
  intro now
  rw [wp_monad_bind]
  refine transition_race (fun w₃ => hidle w₃) fun row w₃ hkeep hrow hs => ?_
  obtain ⟨row₃,hrow₃,hcont⟩ := keeps_trans h₂.drift hkeep ρ r hr
  rw [hrow] at hrow₃
  cases hrow₃
  simp only [if_true,wp_monad_bind]
  refine wp_within (drift_race _) _ (within_appendAllUsage cloudRunId cloudRun usage)
    (fun _ p₄ w₄ h₄ => ?_) (fun _ _ _ _ => trivial)
  rw [wp_monad_bind]
  refine refund_race ?_ fun p₅ w₅ h₅ hm => ?_
  · rw [h₄.same _ (by simp [isUsage]),Pending.put_ne _ _ _ (by simp),Pending.empty_apply]
  refine summarized_race fun p₆ w₆ h₆ => ?_
  have h₃₄ := h₄.mono (G := fun k => isWallet row.workspaceId k ∨ isUsage k ∨ isSummary cloudRunId k)
    fun k hk => Or.inr (Or.inl hk)
  have h₄₅ := h₅.mono (G := fun k => isWallet row.workspaceId k ∨ isUsage k ∨ isSummary cloudRunId k)
    fun k hk => Or.inl (hcont.workspaceId ▸ hk)
  have h₃₆ := Raced.trans (Raced.trans h₃₄ h₄₅) (h₆.mono fun k hk => Or.inr (Or.inr hk))
  refine ended_commit (v := settled row (billableCents usage r) now) (fun _ _ _ => rfl) hρ hrow rfl
    ⟨rfl,rfl,fun hne => (hne hs).elim⟩ h₃₆ ?_
  have hm₆ := hm.evolve h₆ (by simp [isSummary])
  have hle : billableCents usage r ≤ r.reservedCents := min_le_right _ _
  have hmax : max (r.reservedCents - billableCents usage r) 0 =
      row.reservedCents - billableCents usage r := by
    rw [hcont.reservedCents]
    omega
  change Moves p₆ w₆ r.workspaceId (max (r.reservedCents - billableCents usage r) 0) at hm₆
  rw [hmax,← hcont.workspaceId] at hm₆
  simpa [heldShare,reservedShare,settledShare,settled,hs] using hm₆

theorem grant_race (ctx : Option AuthContext) (amount : ℕ) :
    wp (race (.grant ctx amount)) (WalletOp.grant ctx amount).program
      (fun _ _ _ => True) (fun _ _ _ => True) Pending.empty w := by
  cases ctx with
  | none => trivial
  | some c =>
    simp only [WalletOp.program,grantManualCredit,getOrCreateWallet,currentWorkspaceId,
      wp_monad_bind,wp_monad_pure]
    refine getOrCreateWallet_race rfl fun wallet p₁ w₁ h₁ hu => ?_
    simp only [wp_monad_pure,wp_monad_bind,wp_utcNow]
    intro t
    refine flush_race hu rfl fun p₂ w₂ h₂ hm => ?_
    intro w₃ he₃
    have h₃ := Raced.trans (Raced.trans h₁ h₂) (Evolved.env (drift_race _) he₃)
    have hm₃ := hm.evolve (F := fun _ => False) (Evolved.env (drift_race _) he₃) id
    have hfree {k : Key} (hk : ¬ isWallet c.workspaceId k) : p₂ k = none := h₃.same k hk
    refine ⟨⟨fun ws hex => ?_,fun ρ r hr => ⟨r,?_,rfl,rfl,fun _ => rfl⟩⟩,trivial⟩
    · refine Moves.commit ?_ hex
      by_cases hws : ws = c.workspaceId
      · subst hws
        simpa [WalletOp.delta,WalletOp.granted] using hm₃
      · have hnone := hfree (k := .creditWallet ws) (by simp [isWallet,hws])
        simp [Moves,hnone,WalletOp.delta,WalletOp.granted,Ne.symm hws]
    · rw [Pending.view_of_none (hfree (by simp [isWallet]))]
      exact hr

theorem within_ensureSpendLimitAllows (ws : Id) (cents : ℤ) :
    Within (fun _ => False) (ensureSpendLimitAllows ws cents) := by
  refine within_get fun row => ?_
  cases row.filter SpendLimit.active with
  | none => trivial
  | some spendLimit =>
    simp only
    split
    · trivial
    · split
      · refine Within.bind (m := currentMonthReservedAndSettledCents ws)
          (fun _ _ _ _ _ => trivial) fun total => ?_
        split <;> trivial
      · trivial

theorem reserve_race (ctx : Option AuthContext) (projectId taskId : Id) :
    wp (race (.reserve ctx projectId taskId)) (WalletOp.reserve ctx projectId taskId).program
      (fun _ _ _ => True) (fun _ _ _ => True) Pending.empty w := by
  cases ctx with
  | none => trivial
  | some c =>
    simp only [WalletOp.program,reserveCloudRunBudget,currentWorkspaceId,wp_monad_bind,wp_monad_pure]
    refine wp_within (drift_race _) _ (within_ensureSpendLimitAllows _ _) (fun _ p₁ w₁ h₁ => ?_)
      (fun _ _ _ _ => trivial)
    have hp₁ : p₁ = Pending.empty := funext fun k => h₁.same k id
    subst hp₁
    simp only [activeWalletOr402,wp_monad_bind]
    refine (wp_get (.creditWallet c.workspaceId)).mpr fun w₂ _ => ?_
    cases Pending.empty.view w₂.db (.creditWallet c.workspaceId) with
    | none => trivial
    | some wallet =>
      by_cases hpos : wallet.balanceCents ≤ 0
      · simp only [hpos,if_true]
        trivial
      simp only [hpos,if_false,wp_monad_pure]
      by_cases hlow : wallet.balanceCents < defaultCloudRunReservationCents
      · simp only [hlow,if_true]
        trivial
      simp only [hlow,if_false,wp_monad_bind,wp_utcNow]
      intro t
      refine wp_freshId_env.mpr fun w₃ _ => ?_
      simp only [wp_monad_bind,wp_utcNow]
      intro now
      have hless : wallet.balanceCents - defaultCloudRunReservationCents =
          wallet.balanceCents + -defaultCloudRunReservationCents := Int.sub_eq_add_neg
      refine flush_race (Or.inl rfl) hless fun p₄ w₄ h₄ hm => ?_
      have hnone {k : Key} (hk : ¬ isWallet c.workspaceId k) : p₄ k = none := h₄.same k hk
      simp only [wp_monad_bind]
      refine insert_race (hnone (by simp [isWallet])) fun w₅ h₅ hfresh => ?_
      intro w₆ he₆
      have hput : Raced (fun k => k = .budgetReservation w₃.next) p₄ w₅ _ w₅ :=
        Evolved.put (drift_race (.grant none 0)) none
          (some (newReservation c.workspaceId projectId taskId now)) rfl
      have h₆ := Raced.trans (Raced.trans (h₅.mono fun _ => False.elim) hput)
        (Evolved.env (drift_race _) he₆)
      have hm₆ := hm.evolve h₆ (by simp)
      have hfresh₆ : w₆.db (.budgetReservation w₃.next) = none := by
        rw [he₆.2 _ (by simp [Pending.put_self])]
        exact hfresh
      refine ⟨⟨fun ws hex => ?_,fun ρ r hr => ⟨r,?_,rfl,rfl,fun _ => rfl⟩⟩,trivial⟩
      · refine Moves.commit ?_ hex
        by_cases hws : ws = c.workspaceId
        · subst hws
          simpa [WalletOp.delta] using hm₆
        · have hw : p₄ (.creditWallet ws) = none := hnone (by simp [isWallet,hws])
          simp [Moves,Pending.put_ne,hw,WalletOp.delta,Ne.symm hws]
      · by_cases hρ : ρ = w₃.next
        · subst hρ
          rw [hfresh₆] at hr
          cases hr
        · rw [Pending.view_put_ne _ _ _ _ (by simpa using hρ),
            Pending.view_of_none (hnone (by simp [isWallet]))]
          exact hr

section races

variable {ι : Type} [Fintype ι] [DecidableEq ι]

def walletRaces (ops : ι → WalletOp) : Protocol ι Row Time Exn where
  prog i := (ops i).program
  disc i := race (ops i)
  inv _ := True
  cond g i := walletFresh g i = true
  rely_refl _ w := keeps_refl w.db
  rely_trans _ _ _ _ hab hbc := keeps_trans hab hbc
  rely_bump _ w := keeps_refl w.db
  inv_commit _ _ _ _ _ := trivial
  fresh g i key l n k hc hp := by
    simp only [walletFresh,hp] at hc
    exact hc
  compat _ _ _ _ _ _ _ _ hg _ _ := hg.keeps
  safe i w _ := by
    cases ops i with
    | grant ctx amount => exact grant_race ctx amount
    | reserve ctx projectId taskId => exact reserve_race ctx projectId taskId
    | release cloudRunId cloudRun => exact release_race cloudRunId cloudRun
    | settle cloudRunId cloudRun => exact settle_race cloudRunId cloudRun

def leavesReserved (ρ : Id) (c : Commit ι Row) : Bool :=
  (c.before (.budgetReservation ρ)).any (fun r => r.status = .reserved) &&
    (c.after (.budgetReservation ρ)).all fun r => r.status ≠ .reserved

omit [Fintype ι] [DecidableEq ι] in
theorem balance_chain {ops : ι → WalletOp} {ws : Id} {tr : List (Commit ι Row)}
    (hg : ∀ c ∈ tr, WalletCommit (ops c.thread) c.before c.after) {db db' : Db}
    (hc : chained db tr db') (hw : db (.creditWallet ws) ≠ none) :
    balance db' ws =
      balance db ws + (tr.map fun c => (ops c.thread).delta ws c.before c.after).sum := by
  induction tr generalizing db with
  | nil =>
    have heq : db' = db := hc
    simp [heq]
  | cons c cs ih =>
    obtain ⟨rfl,hc⟩ := hc
    obtain ⟨hex,hb⟩ := (hg c (by simp)).moved ws hw
    rw [ih (fun d hd => hg d (by simp [hd])) hc hex,hb,List.map_cons,List.sum_cons,add_assoc]

omit [Fintype ι] [DecidableEq ι] in
theorem ended_chain {ops : ι → WalletOp} {ρ : Id} {tr : List (Commit ι Row)}
    (hg : ∀ c ∈ tr, WalletCommit (ops c.thread) c.before c.after) {db db' : Db}
    (hc : chained db tr db') {r : BudgetReservation} (hr : db (.budgetReservation ρ) = some r)
    (hs : r.status ≠ .reserved) : tr.countP (leavesReserved ρ) = 0 := by
  induction tr generalizing db with
  | nil => rfl
  | cons c cs ih =>
    obtain ⟨rfl,hc⟩ := hc
    obtain ⟨r',hr',hcont⟩ := (hg c (by simp)).keeps ρ r hr
    have hrest := ih (fun d hd => hg d (by simp [hd])) hc (hcont.ended hs ▸ hr')
    rw [List.countP_cons,hrest]
    simp [leavesReserved,hr,hs]

omit [Fintype ι] [DecidableEq ι] in
theorem leaves_chain {ops : ι → WalletOp} (ρ : Id) {tr : List (Commit ι Row)}
    (hg : ∀ c ∈ tr, WalletCommit (ops c.thread) c.before c.after) {db db' : Db}
    (hc : chained db tr db') : tr.countP (leavesReserved ρ) ≤ 1 := by
  induction tr generalizing db with
  | nil => exact Nat.zero_le _
  | cons c cs ih =>
    obtain ⟨rfl,hc⟩ := hc
    have hcs : ∀ d ∈ cs, WalletCommit (ops d.thread) d.before d.after :=
      fun d hd => hg d (by simp [hd])
    rw [List.countP_cons]
    cases hl : leavesReserved ρ c with
    | false => simpa using ih hcs hc
    | true =>
      simp only [leavesReserved,Bool.and_eq_true] at hl
      obtain ⟨r,hr⟩ : ∃ r, c.before (.budgetReservation ρ) = some r := by
        cases hr : c.before (.budgetReservation ρ) with
        | none => simp [hr] at hl
        | some r => exact ⟨r,rfl⟩
      obtain ⟨r',hr',_⟩ := (hg c (by simp)).keeps ρ r hr
      have hs' : r'.status ≠ .reserved := by simpa [hr'] using hl.2
      simp [ended_chain hcs hc hr' hs']

theorem no_lost_update {ops : ι → WalletOp} {w : World} {tr : List (Commit ι Row)}
    {g : Global ι Row Time Exn}
    (h : Run (fun g i => walletFresh g i = true) (Global.init w fun i => (ops i).program) tr g) :
    (∀ ws, w.db (.creditWallet ws) ≠ none → balance g.world.db ws =
      balance w.db ws + (tr.map fun c => (ops c.thread).delta ws c.before c.after).sum) ∧
    ∀ ρ, tr.countP (leavesReserved ρ) ≤ 1 := by
  have hg : ∀ c ∈ tr, WalletCommit (ops c.thread) c.before c.after :=
    fun c hc => (((walletRaces ops).sound trivial h).2 c hc).1
  exact ⟨fun ws hw => balance_chain hg h.chained hw,fun ρ => leaves_chain ρ hg h.chained⟩

end races

def twoGrants : Bool → WalletOp
  | false => .grant (some ⟨1,true⟩) 100
  | true => .grant (some ⟨1,true⟩) 50

def oneWallet : World where
  db
    | .creditWallet 1 => some ⟨0,0⟩
    | _ => none
  next := 0

theorem no_lost_update_serial : ∃ tr g,
    Run (fun g i => walletFresh g i = true) (Global.init oneWallet fun i => (twoGrants i).program)
      tr g ∧ tr.length = 2 ∧ balance g.world.db 1 = 150 := by
  have hplay : (((Global.init oneWallet fun i => (twoGrants i).program).play walletFresh
      [(false,1),(false,2),(false,3),(false,4),(true,5),(true,6),(true,7),(true,8)]).map fun r =>
        (r.1.length,(r.1.map fun c => (twoGrants c.thread).delta 1 c.before c.after).sum)) =
      some (2,150) := by decide
  obtain ⟨⟨tr,g⟩,hp,heq⟩ := Option.map_eq_some_iff.mp hplay
  simp only [Prod.mk.injEq] at heq
  have hrun := Global.play_run (.refl) _ hp
  have hb := (no_lost_update hrun).1 1 (by simp [oneWallet])
  refine ⟨tr,g,hrun,heq.1,?_⟩
  rw [hb,List.nil_append,heq.2]
  rfl

-- The second grant commits between the SELECT and the UPDATE of the first.
theorem grants_lose_update : ∃ tr g,
    Run (fun _ _ => True) (Global.init oneWallet fun i => (twoGrants i).program) tr g ∧
      tr.length = 2 ∧ balance g.world.db 1 = 100 ∧ balance g.world.db 1 ≠ balance oneWallet.db 1 +
        (tr.map fun c => (twoGrants c.thread).delta 1 c.before c.after).sum := by
  have hplay : (((Global.init oneWallet fun i => (twoGrants i).program).play (fun _ _ => true)
      [(false,1),(true,2),(true,3),(true,4),(true,5),(false,6),(false,7),(false,8)]).map fun r =>
        (r.1.length,balance r.2.world.db 1,
          (r.1.map fun c => (twoGrants c.thread).delta 1 c.before c.after).sum)) =
      some (2,100,150) := by decide
  obtain ⟨⟨tr,g⟩,hp,heq⟩ := Option.map_eq_some_iff.mp hplay
  simp only [Prod.mk.injEq] at heq
  obtain ⟨hlen,hb,hsum⟩ := heq
  have hrun := Global.play_run (.refl) _ hp
  refine ⟨tr,g,hrun.weaken fun _ _ _ => trivial,hlen,hb,?_⟩
  rw [hb,hsum]
  decide

end AiScdc
