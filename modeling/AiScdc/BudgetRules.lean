import AiScdc.Budgeting

namespace AiScdc
open Transaction

def balance (db : Db) (workspaceId : Id) : ℤ :=
  (db (.creditWallet workspaceId)).elim 0 CreditWallet.balanceCents

def isWallet (workspaceId : Id) (k : Key) : Prop := k = .creditWallet workspaceId

def isUsage (k : Key) : Prop := ∃ cloudRunId usageType, k = .cloudRunUsage cloudRunId usageType

-- The rows that making or releasing a reservation may write.
def isFunds (reservationId workspaceId : Id) (k : Key) : Prop :=
  k = .budgetReservation reservationId ∨ k = .creditWallet workspaceId

-- The rows that ending the reservation of a run may write.
def isBudget (reservationId workspaceId : Id) (k : Key) : Prop :=
  k = .budgetReservation reservationId ∨ k = .creditWallet workspaceId ∨ isUsage k

theorem isFunds.budget {reservationId workspaceId : Id} {k : Key} (h : isFunds reservationId workspaceId k) :
    isBudget reservationId workspaceId k := h.imp_right Or.inl

theorem within_get {α : Type} {F : Key → Prop} {k : Key} {f : Row k → Op α} (h : ∀ row, Within F (f row)) :
    Within F (get k >>= f) := fun db _ => h (db k)

variable {p : Pending Row} {w : World}

theorem flush_framed {Q : OpPost Unit} {E : OpPost Exn} {k : Key} {loaded new : k.Entity}
    (h : ∀ p', Framed (· = k) p w p' w → Q () p' w) : wp alone (flush k loaded new) Q E p w := by
  rw [wp_flush]
  exact ⟨fun _ => h p (Framed.refl _ _ _),fun _ => h _ (Framed.put _ _ rfl)⟩

theorem flush_current {Q : OpPost Unit} {E : OpPost Exn} {k : Key} {loaded new : k.Entity}
    (hv : p.view w.db k = some loaded)
    (h : ∀ p', Framed (· = k) p w p' w → p'.view w.db k = some new → Q () p' w) :
    wp alone (flush k loaded new) Q E p w := by
  by_cases hne : loaded = new
  · subst hne
    rw [wp_flush]
    exact ⟨fun _ => h p (Framed.refl _ _ _) hv,fun hn => (hn rfl).elim⟩
  · rw [wp_flush_current hv hne]
    exact h _ (Framed.put _ _ rfl) (by simp)

theorem flush_wallet {Q : OpPost Unit} {E : OpPost Exn} {ws : Id} {wallet new : CreditWallet}
    (hv : p.view w.db (.creditWallet ws) = some wallet)
    (h : ∀ p', Framed (isWallet ws) p w p' w →
      p'.view w.db (.creditWallet ws) = some new → Q () p' w) :
    wp alone (flush (.creditWallet ws) wallet new) Q E p w := flush_current hv h

theorem getOrCreateWallet_rule {Q : OpPost CreditWallet} {E : OpPost Exn} {ws : Id}
    (h : ∀ wallet p', Framed (isWallet ws) p w p' w →
      p'.view w.db (.creditWallet ws) = some wallet →
      wallet.balanceCents = balance (p.view w.db) ws → Q wallet p' w) :
    wp alone (getOrCreateWalletForScope ws) Q E p w := by
  simp only [getOrCreateWalletForScope,get,wp_monad_bind,alone_select,alone_pure]
  cases hv : p.view w.db (.creditWallet ws) with
  | some wallet => exact h wallet p (Framed.refl _ _ _) hv (by simp [balance,hv])
  | none =>
    simp only [wp_monad_bind,wp_utcNow,wp_insert,wp_monad_pure]
    exact fun t => ⟨fun _ => h _ _ (Framed.put _ _ rfl) (by simp) (by simp [balance,hv]),
      fun hn => (hn hv).elim⟩

theorem refund_rule {Q : OpPost Unit} {E : OpPost Exn} {r : BudgetReservation} {cents : ℤ}
    (h : ∀ p', Framed (isWallet r.workspaceId) p w p' w →
      balance (p'.view w.db) r.workspaceId = balance (p.view w.db) r.workspaceId + cents →
      Q () p' w) :
    wp alone (refund r cents) Q E p w := by
  simp only [refund,wp_monad_bind]
  refine getOrCreateWallet_rule fun wallet p₁ hf hv hb => ?_
  simp only [wp_monad_bind,wp_utcNow]
  refine fun t => flush_wallet hv fun p₂ hf₂ hv₂ => h p₂ (hf.trans hf₂) ?_
  simp [balance,hv₂] at hb ⊢
  exact hb

def released (r : BudgetReservation) (now : Time) : BudgetReservation :=
  { r with status := .released, settledCents := 0, settledAt := some now, updatedAt := now }

def settled (r : BudgetReservation) (cents : ℤ) (now : Time) : BudgetReservation :=
  { r with status := .settled, settledCents := cents, settledAt := some now, updatedAt := now }

def reservationOf (db : Db) (cloudRun : CloudRun) : Option (Id × BudgetReservation) :=
  cloudRun.budgetReservationId.bind fun reservationId =>
    (db (.budgetReservation reservationId)).map (reservationId,·)

-- What a release or a settlement finds, if it has anything to do.
def activeReservation (db : Db) (cloudRun : CloudRun) : Option (Id × BudgetReservation) :=
  (reservationOf db cloudRun).filter fun entry => entry.2.status = .reserved

theorem activeReservation_some {db : Db} {cloudRun : CloudRun} {ρ : Id} {r : BudgetReservation}
    (h : activeReservation db cloudRun = some (ρ,r)) :
    cloudRun.budgetReservationId = some ρ ∧ db (.budgetReservation ρ) = some r ∧
      r.status = .reserved := by
  simp only [activeReservation,reservationOf,Option.filter_eq_some_iff,Option.bind_eq_some_iff,
    Option.map_eq_some_iff,Prod.mk.injEq,decide_eq_true_eq] at h
  obtain ⟨⟨ρ',hρ,r',hr,rfl,rfl⟩,hs⟩ := h
  exact ⟨hρ,hr,hs⟩

theorem wp_activeReservation {Q : OpPost (Option (Id × BudgetReservation))} {E : OpPost Exn}
    {cloudRun : CloudRun} : wp alone (activeReservationForCloudRun cloudRun) Q E p w ↔
      Q (activeReservation (p.view w.db) cloudRun) p w := by
  unfold activeReservationForCloudRun activeReservation reservationOf
  cases cloudRun.budgetReservationId with
  | none => simp
  | some ρ =>
    simp only [get,wp_monad_bind,alone_select,alone_pure]
    cases hr : p.view w.db (.budgetReservation ρ) with
    | none => simp [hr]
    | some r => by_cases hs : r.status = .reserved <;> simp [hr,hs,Option.filter]

theorem transition_rule {Q : OpPost Bool} {E : OpPost Exn} {ρ : Id} {r : BudgetReservation}
    {status : BudgetReservationStatus} {cents : ℤ} {now : Time}
    (hv : p.view w.db (.budgetReservation ρ) = some r) (hs : r.status = .reserved)
    (h : Q true (p.put (.budgetReservation ρ) (w.db (.budgetReservation ρ)) (some
      { r with status, settledCents := cents, settledAt := some now, updatedAt := now })) w) :
    wp alone (transitionReservedReservation ρ status cents now) Q E p w := by
  rw [transitionReservedReservation,wp_updateWhere]
  refine ⟨fun row hrow _ => ?_,fun hf => ?_⟩
  · rw [hv] at hrow
    cases hrow
    exact h
  · simpa [hs] using hf r hv

-- A release writes the reservation and the wallet that is refunded.
theorem release_exact_rule {Q : OpPost CloudRun} {E : OpPost Exn} {cloudRun : CloudRun}
    (hidle : activeReservation (p.view w.db) cloudRun = none → Q cloudRun p w)
    (hact : ∀ ρ r now p', activeReservation (p.view w.db) cloudRun = some (ρ,r) →
      Framed (isFunds ρ r.workspaceId) p w p' w →
      p'.view w.db (.budgetReservation ρ) = some (released r now) →
      balance (p'.view w.db) r.workspaceId =
        balance (p.view w.db) r.workspaceId + r.reservedCents →
      Q (releasedSummary ρ r cloudRun) p' w) :
    wp alone (releaseCloudRunReservation cloudRun) Q E p w := by
  simp only [releaseCloudRunReservation,wp_monad_bind,wp_activeReservation]
  cases ha : activeReservation (p.view w.db) cloudRun with
  | none => exact hidle ha
  | some entry =>
    obtain ⟨ρ,r⟩ := entry
    obtain ⟨_,hr,hs⟩ := activeReservation_some ha
    simp only [wp_monad_bind,wp_utcNow]
    refine fun now => transition_rule hr hs ?_
    simp only [if_true,wp_monad_bind]
    refine refund_rule fun p' hf hb => hact ρ r now p' ha ?_ ?_ ?_
    · have hput := Framed.put (F := isFunds ρ r.workspaceId) (p := p) (w := w)
        (w.db (.budgetReservation ρ)) (some (released r now)) (Or.inl rfl)
      exact hput.trans (hf.mono fun k hk => Or.inr hk)
    · rw [hf.view (by simp [isWallet])]
      simp [released]
    · rw [hb,balance,Pending.view_put_ne _ _ _ _ (by simp)]
      rfl

theorem release_rule {Q : OpPost CloudRun} {E : OpPost Exn} {cloudRun : CloudRun}
    (hidle : activeReservation (p.view w.db) cloudRun = none → Q cloudRun p w)
    (hact : ∀ ρ r now p', activeReservation (p.view w.db) cloudRun = some (ρ,r) →
      Framed (isBudget ρ r.workspaceId) p w p' w →
      p'.view w.db (.budgetReservation ρ) = some (released r now) →
      balance (p'.view w.db) r.workspaceId =
        balance (p.view w.db) r.workspaceId + r.reservedCents →
      Q (releasedSummary ρ r cloudRun) p' w) :
    wp alone (releaseCloudRunReservation cloudRun) Q E p w :=
  release_exact_rule hidle fun ρ r now p' ha hf =>
    hact ρ r now p' ha (hf.mono fun _ hk => hk.budget)

theorem measuredUsage_nonneg (cloudRun : CloudRun) (bytes : ℤ) :
    0 ≤ ((measuredUsage cloudRun bytes).map UsageMeasurement.amountCents).sum := by
  refine List.sum_nonneg fun cents hc => ?_
  obtain ⟨m,hm,rfl⟩ := List.mem_map.mp hc
  simp only [measuredUsage,List.mem_append,List.mem_singleton] at hm
  rcases hm with (((rfl | hm) | hm) | hm) | hm
  · decide
  all_goals
    split at hm
    · simp only [List.mem_singleton] at hm
      subst hm
      simp [runtimeSecondCents,queueMessageCents,objectStorageByteCents,logSyncCallCents]
      try omega
    · simp at hm

theorem measuredUsage_types (cloudRun : CloudRun) (bytes : ℤ) :
    ((measuredUsage cloudRun bytes).map UsageMeasurement.usageType).Nodup := by
  unfold measuredUsage
  dsimp only
  split <;> split <;> split <;> split <;> simp

-- The measurements that a settlement takes from the run and from its stored objects.
def usageAt (db : Db) (next : ℕ) (cloudRunId : Id) (cloudRun : CloudRun) : List UsageMeasurement :=
  let own := addSize ((cloudRun.logStreamUri.map SizeRef.uri).getD .logStream)
    cloudRun.logStreamSizeBytes
    (addSize ((cloudRun.artifactManifestUri.map SizeRef.uri).getD .artifactManifest)
      cloudRun.artifactManifestSizeBytes [])
  let storedObjects := (List.range next).filterMap fun i => (db (.storedObject i)).bind fun o =>
    if o.cloudRunId = cloudRunId then some (SizeRef.uri o.uri,o.sizeBytes) else none
  measuredUsage cloudRun
    ((storedObjects.foldl (fun acc o => addSize o.1 (some o.2) acc) own).map Prod.snd).sum

theorem wp_usageMeasurements {Q : OpPost (List UsageMeasurement)} {E : OpPost Exn} {cloudRunId : Id}
    {cloudRun : CloudRun} : wp alone (cloudRunUsageMeasurements cloudRunId cloudRun) Q E p w ↔
      Q (usageAt (p.view w.db) w.next cloudRunId cloudRun) p w := by
  simp only [cloudRunUsageMeasurements,cloudRunObjectStorageBytes,wp_monad_bind,wp_selectWhere,
    wp_monad_pure]
  rfl

theorem usageAt_nonneg (db : Db) (next : ℕ) (cloudRunId : Id) (cloudRun : CloudRun) :
    0 ≤ measuredCents (usageAt db next cloudRunId cloudRun) := measuredUsage_nonneg cloudRun _

theorem usageAt_types (db : Db) (next : ℕ) (cloudRunId : Id) (cloudRun : CloudRun) :
    ((usageAt db next cloudRunId cloudRun).map UsageMeasurement.usageType).Nodup :=
  measuredUsage_types cloudRun _

-- What appending measurements to the ledger of a run keeps, and what it enters.
structure Appended (cloudRunId workspaceId : Id) (usage : List UsageMeasurement) (db db' : Db) : Prop where
  kept : ∀ id t e, db (.cloudRunUsage id t) = some e → db' (.cloudRunUsage id t) = some e
  others : ∀ id t, (id = cloudRunId → ∀ m ∈ usage, m.usageType ≠ t) →
    db' (.cloudRunUsage id t) = db (.cloudRunUsage id t)
  entered : ∀ m ∈ usage, db (.cloudRunUsage cloudRunId m.usageType) = none →
    ∃ e, db' (.cloudRunUsage cloudRunId m.usageType) = some e ∧ e.amountCents = m.amountCents ∧
      e.workspaceId = workspaceId

theorem appendCloudRunUsage_rule {Q : OpPost Unit} {E : OpPost Exn} {cloudRunId : Id}
    {cloudRun : CloudRun} {m : UsageMeasurement}
    (h : ∀ p', Framed isUsage p w p' w → Appended cloudRunId cloudRun.workspaceId [m] (p.view w.db) (p'.view w.db) →
      Q () p' w) :
    wp alone (appendCloudRunUsage cloudRunId cloudRun m) Q E p w := by
  simp only [appendCloudRunUsage,get,wp_monad_bind,alone_select,alone_pure]
  cases hv : p.view w.db (.cloudRunUsage cloudRunId m.usageType) with
  | some row =>
    refine h p (Framed.refl _ _ _) ⟨fun _ _ _ he => he,fun _ _ _ => rfl,fun m' hm' hnone => ?_⟩
    obtain rfl := List.mem_singleton.mp hm'
    rw [hv] at hnone
    cases hnone
  | none =>
    simp only [wp_monad_bind,wp_utcNow,wp_monad_tryCatch,wp_insert]
    refine fun t => ⟨fun _ => h _ (Framed.put _ _ ⟨_,_,rfl⟩) ⟨fun id t e he => ?_,fun id t hne => ?_,
      fun m' hm' _ => ?_⟩,fun hn => (hn hv).elim⟩
    · rw [Pending.view_put_ne _ _ _ _ (fun heq => ?_)]
      · exact he
      · obtain ⟨rfl,rfl⟩ := Key.cloudRunUsage.inj heq
        rw [hv] at he
        cases he
    · refine Pending.view_put_ne _ _ _ _ fun heq => ?_
      cases heq
      exact hne rfl m (List.mem_singleton_self m) rfl
    · obtain rfl := List.mem_singleton.mp hm'
      exact ⟨_,Pending.view_put_self _ _ _ _ _,rfl,rfl⟩

theorem Appended.cons {cloudRunId workspaceId : Id} {m : UsageMeasurement} {ms : List UsageMeasurement}
    {db db₁ db₂ : Db} (hm : Appended cloudRunId workspaceId [m] db db₁)
    (hms : Appended cloudRunId workspaceId ms db₁ db₂)
    (hnew : ∀ m' ∈ ms, m'.usageType ≠ m.usageType) : Appended cloudRunId workspaceId (m :: ms) db db₂ := by
  refine ⟨fun id t e he => hms.kept id t e (hm.kept id t e he),fun id t hne => ?_,fun m' hm' hnone => ?_⟩
  · rw [hms.others id t fun hid m' hm' => hne hid m' (List.mem_cons_of_mem m hm'),
      hm.others id t fun hid m' hm' => ?_]
    obtain rfl := List.mem_singleton.mp hm'
    exact hne hid _ (List.mem_cons_self ..)
  · rcases List.mem_cons.mp hm' with rfl | hlater
    · obtain ⟨e,he,hamount⟩ := hm.entered _ (List.mem_singleton_self _) hnone
      exact ⟨e,hms.kept _ _ _ he,hamount⟩
    · refine hms.entered m' hlater ?_
      rw [hm.others _ _ fun _ m'' hm'' => ?_]
      · exact hnone
      · obtain rfl := List.mem_singleton.mp hm''
        exact (hnew m' hlater).symm

theorem appendAllUsage_rule {Q : OpPost Unit} {E : OpPost Exn} {cloudRunId : Id}
    {cloudRun : CloudRun} {usage : List UsageMeasurement}
    (hnodup : (usage.map UsageMeasurement.usageType).Nodup)
    (h : ∀ p', Framed isUsage p w p' w → Appended cloudRunId cloudRun.workspaceId usage (p.view w.db) (p'.view w.db) →
      Q () p' w) :
    wp alone (appendAllUsage cloudRunId cloudRun usage) Q E p w := by
  induction usage generalizing p with
  | nil => exact h p (Framed.refl _ _ _) ⟨fun _ _ _ he => he,fun _ _ _ => rfl,by simp⟩
  | cons m ms ih =>
    simp only [List.map_cons,List.nodup_cons] at hnodup
    have hnew (m' : UsageMeasurement) (hm' : m' ∈ ms) : m'.usageType ≠ m.usageType :=
      fun heq => hnodup.1 (heq ▸ List.mem_map_of_mem hm')
    simp only [appendAllUsage,wp_monad_bind]
    exact appendCloudRunUsage_rule fun p₁ hf hm => ih hnodup.2 fun p₂ hf₂ hms =>
      h p₂ (hf.trans hf₂) (hm.cons hms hnew)

theorem Appended.new {cloudRunId workspaceId : Id} {usage : List UsageMeasurement} {db db' : Db}
    (h : Appended cloudRunId workspaceId usage db db') {id : Id} {t : UsageType} {e : UsageLedgerEntry}
    (hnone : db (.cloudRunUsage id t) = none) (he : db' (.cloudRunUsage id t) = some e) :
    id = cloudRunId ∧ e.workspaceId = workspaceId := by
  by_contra hno
  have hsame : db' (.cloudRunUsage id t) = db (.cloudRunUsage id t) := by
    refine h.others id t fun hid m hm ht => hno ?_
    subst hid ht
    obtain ⟨e',he',_,hws⟩ := h.entered m hm hnone
    cases he.symm.trans he'
    exact ⟨rfl,hws⟩
  cases he.symm.trans (hsame.trans hnone)

-- A settlement whose reservation, measurements and time are known.
def settleAt (cloudRunId : Id) (cloudRun : CloudRun) (ρ : Id) (r : BudgetReservation)
    (usage : List UsageMeasurement) (now : Time) : Op CloudRun := do
  if ← transitionReservedReservation ρ .settled (billableCents usage r) now then
    appendAllUsage cloudRunId cloudRun usage
    refund r (max (r.reservedCents - billableCents usage r) 0)
    pure (settledSummary ρ r usage cloudRun)
  else pure cloudRun

theorem settle_eq (cloudRunId : Id) (cloudRun : CloudRun) :
    settleCloudRunBudget cloudRunId cloudRun = (do
      match ← activeReservationForCloudRun cloudRun with
      | none => pure cloudRun
      | some (ρ,r) =>
        let usage ← cloudRunUsageMeasurements cloudRunId cloudRun
        let now ← utcNow
        settleAt cloudRunId cloudRun ρ r usage now) := rfl

-- The rows a settlement leaves: the reservation, the wallet that is refunded and the ledger.
structure Settlement (cloudRunId workspaceId ρ : Id) (r : BudgetReservation) (usage : List UsageMeasurement)
    (now : Time) (db db' : Db) : Prop where
  reservation : db' (.budgetReservation ρ) = some (settled r (billableCents usage r) now)
  refunded : balance db' r.workspaceId =
    balance db r.workspaceId + (r.reservedCents - billableCents usage r)
  ledger : Appended cloudRunId workspaceId usage db db'

theorem settleAt_rule {Q : OpPost CloudRun} {E : OpPost Exn} {cloudRunId ρ : Id} {cloudRun : CloudRun}
    {r : BudgetReservation} {usage : List UsageMeasurement} {now : Time}
    (hr : p.view w.db (.budgetReservation ρ) = some r) (hs : r.status = .reserved)
    (hnodup : (usage.map UsageMeasurement.usageType).Nodup)
    (h : ∀ p', Framed (isBudget ρ r.workspaceId) p w p' w →
      Settlement cloudRunId cloudRun.workspaceId ρ r usage now (p.view w.db) (p'.view w.db) →
      Q (settledSummary ρ r usage cloudRun) p' w) :
    wp alone (settleAt cloudRunId cloudRun ρ r usage now) Q E p w := by
  have hle : billableCents usage r ≤ r.reservedCents := min_le_right _ _
  simp only [settleAt,wp_monad_bind]
  refine transition_rule hr hs ?_
  simp only [if_true,wp_monad_bind]
  refine appendAllUsage_rule hnodup fun p₁ hf₁ happ => ?_
  rw [wp_monad_bind]
  refine refund_rule fun p₂ hf₂ hb => ?_
  have hput := Framed.put (F := isBudget ρ r.workspaceId) (p := p) (w := w)
    (w.db (.budgetReservation ρ)) (some (settled r (billableCents usage r) now)) (Or.inl rfl)
  have hto₁ := hput.trans (hf₁.mono fun k hk => Or.inr (Or.inr hk))
  have hto₂ := hto₁.trans (hf₂.mono fun k hk => Or.inr (Or.inl hk))
  have hbefore (id : Id) (t : UsageType) : (p.put (.budgetReservation ρ) (w.db (.budgetReservation ρ))
      (some (settled r (billableCents usage r) now))).view w.db (.cloudRunUsage id t) =
      p.view w.db (.cloudRunUsage id t) := Pending.view_put_ne _ _ _ _ (by simp)
  have hafter (id : Id) (t : UsageType) :
      p₂.view w.db (.cloudRunUsage id t) = p₁.view w.db (.cloudRunUsage id t) :=
    hf₂.view (by simp [isWallet])
  refine h p₂ hto₂ ⟨?_,?_,⟨fun id t e he => ?_,fun id t hne => ?_,fun m hm hnone => ?_⟩⟩
  · rw [hf₂.view (by simp [isWallet]),hf₁.view (by simp [isUsage])]
    simp [settled]
  · have hkeep : balance (p₁.view w.db) r.workspaceId = balance (p.view w.db) r.workspaceId := by
      unfold balance
      rw [hf₁.view (by simp [isUsage]),Pending.view_put_ne _ _ _ _ (by simp)]
    have hmax : max (r.reservedCents - billableCents usage r) 0 =
        r.reservedCents - billableCents usage r := by omega
    rw [hb,hkeep,hmax]
  · rw [hafter]
    exact happ.kept id t e ((hbefore id t).trans he)
  · rw [hafter,happ.others id t hne]
    exact hbefore id t
  · rw [hafter]
    exact happ.entered m hm ((hbefore _ _).trans hnone)

theorem settle_exact_rule {Q : OpPost CloudRun} {E : OpPost Exn} {cloudRunId : Id}
    {cloudRun : CloudRun} (hidle : activeReservation (p.view w.db) cloudRun = none → Q cloudRun p w)
    (hact : ∀ ρ r now p', activeReservation (p.view w.db) cloudRun = some (ρ,r) →
      Framed (isBudget ρ r.workspaceId) p w p' w →
      Settlement cloudRunId cloudRun.workspaceId ρ r (usageAt (p.view w.db) w.next cloudRunId cloudRun) now
        (p.view w.db) (p'.view w.db) →
      Q (settledSummary ρ r (usageAt (p.view w.db) w.next cloudRunId cloudRun) cloudRun) p' w) :
    wp alone (settleCloudRunBudget cloudRunId cloudRun) Q E p w := by
  rw [settle_eq,wp_monad_bind,wp_activeReservation]
  cases ha : activeReservation (p.view w.db) cloudRun with
  | none => exact hidle ha
  | some entry =>
    obtain ⟨ρ,r⟩ := entry
    obtain ⟨_,hr,hs⟩ := activeReservation_some ha
    simp only [wp_monad_bind,wp_usageMeasurements,wp_utcNow]
    exact fun now => settleAt_rule hr hs (usageAt_types _ _ _ _) fun p' hf hset =>
      hact ρ r now p' ha hf hset

theorem settle_rule {Q : OpPost CloudRun} {E : OpPost Exn} {cloudRunId : Id} {cloudRun : CloudRun}
    (hidle : activeReservation (p.view w.db) cloudRun = none → Q cloudRun p w)
    (hact : ∀ ρ r usage now p', activeReservation (p.view w.db) cloudRun = some (ρ,r) →
      0 ≤ measuredCents usage → Framed (isBudget ρ r.workspaceId) p w p' w →
      p'.view w.db (.budgetReservation ρ) = some (settled r (billableCents usage r) now) →
      balance (p'.view w.db) r.workspaceId =
        balance (p.view w.db) r.workspaceId + (r.reservedCents - billableCents usage r) →
      Q (settledSummary ρ r usage cloudRun) p' w) :
    wp alone (settleCloudRunBudget cloudRunId cloudRun) Q E p w :=
  settle_exact_rule hidle fun ρ r now p' ha hf hset =>
    hact ρ r _ now p' ha (usageAt_nonneg _ _ _ _) hf hset.reservation hset.refunded

theorem ensureSpendLimitAllows_rule {Q : OpPost Unit} {E : OpPost Exn} {ws : Id} {cents : ℤ}
    (hok : Q () p w) (hdeny : E (.http 402 "Spend limit exceeded") p w) :
    wp alone (ensureSpendLimitAllows ws cents) Q E p w := by
  simp only [ensureSpendLimitAllows,get,wp_monad_bind,alone_select,alone_pure]
  split
  · exact hok
  · split
    · exact hdeny
    · split
      · simp only [currentMonthReservedAndSettledCents,wp_monad_bind,wp_utcNow,wp_selectWhere,
          wp_monad_pure]
        intro t
        split
        · exact hdeny
        · exact hok
      · exact hok

theorem reserve_exact_rule {Q : OpPost (Id × BudgetReservation)} {E : OpPost Exn}
    {ctx : Option AuthContext} {projectId taskId : Id}
    (hdeny : ∀ code detail, E (.http code detail) p w)
    (hclash : p.view w.db (.budgetReservation w.next) ≠ none →
      ∀ p', E .integrityError p' w.bump)
    (h : ∀ ws now p', ctx.map AuthContext.workspaceId = some ws →
      p.view w.db (.budgetReservation w.next) = none →
      defaultCloudRunReservationCents ≤ balance (p.view w.db) ws →
      Framed (isFunds w.next ws) p w p' w.bump →
      p'.view w.db (.budgetReservation w.next) = some (newReservation ws projectId taskId now) →
      balance (p'.view w.db) ws = balance (p.view w.db) ws - defaultCloudRunReservationCents →
      Q (w.next,newReservation ws projectId taskId now) p' w.bump) :
    wp alone (reserveCloudRunBudget ctx projectId taskId) Q E p w := by
  cases ctx with
  | none => exact hdeny _ _
  | some c =>
    simp only [reserveCloudRunBudget,currentWorkspaceId,wp_monad_bind,wp_monad_pure]
    refine ensureSpendLimitAllows_rule ?_ (hdeny _ _)
    simp only [activeWalletOr402,get,wp_monad_bind,alone_select,alone_pure]
    cases hv : p.view w.db (.creditWallet c.workspaceId) with
    | none => exact hdeny _ _
    | some wallet =>
      have hb : balance (p.view w.db) c.workspaceId = wallet.balanceCents := by simp [balance,hv]
      by_cases hpos : wallet.balanceCents ≤ 0
      · simp only [hpos,if_true]
        exact hdeny _ _
      · simp only [hpos,if_false,wp_monad_pure]
        by_cases hlow : wallet.balanceCents < defaultCloudRunReservationCents
        · simp only [hlow,if_true]
          exact hdeny _ _
        · simp only [hlow,if_false,wp_monad_bind,wp_utcNow,wp_freshId]
          refine fun t now => flush_wallet (w := w.bump) hv fun p₁ hf₁ hv₁ => ?_
          simp only [wp_monad_bind,wp_insert,wp_monad_pure]
          have hsame : p₁.view w.db (.budgetReservation w.next) =
              p.view w.db (.budgetReservation w.next) := hf₁.view (by simp [isWallet])
          refine ⟨fun hnone => ?_,fun hsome => hclash (hsame ▸ hsome) p₁⟩
          refine h c.workspaceId now _ rfl (hsame ▸ hnone) (by omega) ?_ (by simp [newReservation]) ?_
          · have hbump : Framed (isFunds w.next c.workspaceId) p w p w.bump :=
              Evolved.bump drift_alone (env_alone.mpr rfl)
            exact (hbump.trans (hf₁.mono fun k hk => Or.inr hk)).trans
              (Framed.put _ _ (Or.inl rfl))
          · rw [hb,balance,Pending.view_put_ne _ _ _ _ (by simp)]
            change (p₁.view w.bump.db _).elim 0 _ = _
            rw [hv₁]
            rfl

theorem reserve_rule {Q : OpPost (Id × BudgetReservation)} {E : OpPost Exn}
    {ctx : Option AuthContext} {projectId taskId : Id}
    (hdeny : ∀ code detail, E (.http code detail) p w)
    (hclash : p.view w.db (.budgetReservation w.next) ≠ none →
      ∀ p', E .integrityError p' w.bump)
    (h : ∀ ws now p', ctx.map AuthContext.workspaceId = some ws →
      p.view w.db (.budgetReservation w.next) = none →
      defaultCloudRunReservationCents ≤ balance (p.view w.db) ws →
      Framed (isBudget w.next ws) p w p' w.bump →
      p'.view w.db (.budgetReservation w.next) = some (newReservation ws projectId taskId now) →
      balance (p'.view w.db) ws = balance (p.view w.db) ws - defaultCloudRunReservationCents →
      Q (w.next,newReservation ws projectId taskId now) p' w.bump) :
    wp alone (reserveCloudRunBudget ctx projectId taskId) Q E p w :=
  reserve_exact_rule hdeny hclash fun ws now p' hws hnone hlow hf hr hb =>
    h ws now p' hws hnone hlow (hf.mono fun _ hk => hk.budget) hr hb

theorem grant_rule {Q : OpPost Unit} {E : OpPost Exn} {ctx : Option AuthContext} {amount : ℕ}
    (hdeny : ctx = none → E (.http 401 "Authentication is required") p w)
    (h : ∀ ws db', ctx.map AuthContext.workspaceId = some ws →
      (∀ k, ¬ isWallet ws k → db' k = p.view w.db k) →
      balance db' ws = balance (p.view w.db) ws + amount →
      Q () Pending.empty ⟨db',w.next⟩) :
    wp alone (grantManualCredit ctx amount) Q E p w := by
  cases ctx with
  | none => exact hdeny rfl
  | some c =>
    simp only [grantManualCredit,getOrCreateWallet,currentWorkspaceId,wp_monad_bind,wp_monad_pure]
    refine getOrCreateWallet_rule fun wallet p₁ hf₁ hv₁ hb => ?_
    simp only [wp_monad_pure,wp_monad_bind,wp_utcNow]
    refine fun t => flush_wallet hv₁ fun p₂ hf₂ hv₂ => ?_
    rw [wp_commit]
    refine h c.workspaceId _ rfl (fun k hk => (hf₁.trans hf₂).view hk) ?_
    have hnew : balance (p₂.view w.db) c.workspaceId = wallet.balanceCents + amount := by
      simp [balance,hv₂]
    rw [hnew,hb]

end AiScdc
